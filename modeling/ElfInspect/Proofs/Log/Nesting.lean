import ElfInspect.Log.Call
import ElfInspect.Proofs.Log
import ElfInspect.Proofs.Value.Entry

/-!
# Logs of nested operations

However the operations of a program nest, each call writes one entry if it reaches the level of the
log, under the innermost operation that is open, and the end of an operation brings back the one
that was open when it began.  Each context saves one operation only, so this needs contexts that are
left before they are entered again.
-/

namespace ElfInspect

namespace LogStep

/-- Steps that leave each context which they enter, and no other, the innermost first. -/
inductive Balanced : List LogStep → Prop where
  | nil : Balanced []
  | ask (call : LogCall) {rest : List LogStep} (later : Balanced rest) :
      Balanced (.ask call :: rest)
  | operation (context : Nat) {body rest : List LogStep} (inner : Balanced body)
      (later : Balanced rest) : Balanced (.enter context :: (body ++ .leave context :: rest))

/-- Steps that leave no context which they did not enter, so that more steps can balance them. -/
def WellNested (steps : List LogStep) : Prop := ∃ rest, Balanced (steps ++ rest)

/-- Between two steps that enter the same context there is one that leaves it. -/
def NoReentry (steps : List LogStep) : Prop :=
  ∀ (front : List LogStep) (context : Nat) (between back : List LogStep),
    steps = front ++ .enter context :: (between ++ .enter context :: back) →
      .leave context ∈ between

/-- The context that a step enters. -/
def entered? : LogStep → Option Nat
  | enter context => some context
  | _ => none

/-- The operation that is open after some steps: the innermost of those that have not been left, or
the one from before if there are none. -/
inductive Open (names : Nat → String) (before : Option String) :
    List LogStep → Option String → Prop where
  | outside {steps : List LogStep} (balanced : Balanced steps) : Open names before steps before
  | inside (front : List LogStep) (context : Nat) {body : List LogStep}
      (balanced : Balanced body) :
      Open names before (front ++ .enter context :: body) (some (names context))

end LogStep

namespace LogUse

/-- The names of the operations of all contexts. -/
def names (use : LogUse) (context : Nat) : String := (use.contexts context).operation

/-- The same use of a log at another level. -/
def atLevel (use : LogUse) (level : Nat) : LogUse :=
  { use with log := { use.log with level := level } }

/-- What a step that a program takes leaves, whether or not it makes sense: a call that is refused
leaves no mark. -/
def next (format : Formatter) (use : LogUse) (step : LogStep) : LogUse :=
  (use.run format step).toOption.getD use

/-- What the steps of a program leave. -/
def after (format : Formatter) (use : LogUse) : List LogStep → LogUse
  | [] => use
  | step :: rest => (use.next format step).after format rest

end LogUse

/-- The level that an entry has to reach: a log without a level leaves it at that of warnings. -/
def Log.threshold (log : Log) : Nat := if log.level = 0 then 30 else log.level

/-- How serious the entry of a method is, and the level that it reaches. -/
def LogMethod.told : LogMethod → Severity × Nat
  | .debug => (.debug, 10)
  | .info => (.info, 20)
  | .warning => (.warning, 30)
  | .error => (.error, 40)
  | .exception => (.error, 40)

namespace LogCall

/-- A call that attaches nothing and has the arguments that its template asks for. -/
structure Regular (format : Formatter) (call : LogCall) : Prop where
  fits : call.arguments = [] ∨ (format call.template call.arguments).isSome
  unattached : ∀ pair ∈ call.named, pair.1 ≠ "extra"

/-- No value of a call has the name of one of its own parts. -/
def NamesFree (call : LogCall) : Prop := ∀ pair ∈ call.named, pair.1 ∉ ["self", "msg"]

/-- The depth at which a call looks for its caller is a number, if one is given. -/
def DepthIsNumber (call : LogCall) : Prop :=
  ∀ depth ∈ Value.entry? "stacklevel" call.named, depth.isNumber

/-- The entry of a call reaches the level of a log. -/
def Reaches (call : LogCall) (log : Log) : Prop := log.threshold ≤ call.method.told.2

/-- A call makes no sense for a log: always with a name that is taken, and with a depth that is no
number if its entry reaches the level of the log. -/
def Refused (call : LogCall) (log : Log) : Prop :=
  ¬call.NamesFree ∨ call.Reaches log ∧ ¬call.DepthIsNumber

instance (call : LogCall) : Decidable call.NamesFree :=
  inferInstanceAs (Decidable (∀ pair ∈ call.named, pair.1 ∉ ["self", "msg"]))

instance (call : LogCall) : Decidable call.DepthIsNumber :=
  inferInstanceAs (Decidable (∀ depth ∈ Value.entry? "stacklevel" call.named, depth.isNumber))

instance (call : LogCall) (log : Log) : Decidable (call.Reaches log) :=
  inferInstanceAs (Decidable (log.threshold ≤ call.method.told.2))

/-- A message is that of a call: the filled template, or the template itself without arguments. -/
def Says (format : Formatter) (call : LogCall) (message : String) : Prop :=
  (call.arguments = [] → message = call.template) ∧
    (call.arguments ≠ [] → format call.template call.arguments = some message)

/-- The entry for which a call asks while an operation is open. -/
def entryIn (call : LogCall) (operation : Option String) (message : String) : LogEntry :=
  { severity := call.method.told.1
    operation := operation
    message := message
    extra :=
      match call.named.filter fun pair => pair.1 ∉ ["exc_info", "stack_info", "stacklevel"] with
      | [] => none
      | kept => some (.record kept) }

/-- If it reaches the level, a call writes one entry, whatever the values that come with it. -/
def WritesOne (format : Formatter) (call : LogCall) (use : LogUse) : Prop :=
  ∀ message, call.Says format message →
    (use.after format [.ask call]).log.entries =
      use.log.entries ++
        if call.Reaches use.log then [call.entryIn use.log.operation message] else []

end LogCall

/-- A step that begins or ends an operation, or makes a regular call. -/
def LogStep.Regular (format : Formatter) : LogStep → Prop
  | .ask call => call.Regular format
  | _ => True

open LogStep in
/-- A log holds what a program tells it as the operations of the program nest. -/
structure LogUse.Follows (format : Formatter) (use : LogUse) (steps : List LogStep) : Prop where
  /-- A call that makes sense writes one entry if it reaches the level, and no other does. -/
  asked : ∀ (front : List LogStep) (call : LogCall) (back : List LogStep),
    steps = front ++ .ask call :: back →
      ∃ operation message, Open use.names use.log.operation front operation ∧
        call.Says format message ∧
        (use.after format (front ++ [.ask call])).log.entries =
          (use.after format front).log.entries ++
            if call.Reaches use.log ∧ call.NamesFree ∧ call.DepthIsNumber then
              [call.entryIn operation message]
            else []
  /-- Nothing else writes an entry. -/
  silent : ∀ (front : List LogStep) (step : LogStep) (back : List LogStep),
    steps = front ++ step :: back → (∀ call, step ≠ .ask call) →
      (use.after format (front ++ [step])).log.entries = (use.after format front).log.entries
  /-- Calls without sense are refused. -/
  refused : ∀ (front : List LogStep) (call : LogCall) (back : List LogStep),
    steps = front ++ .ask call :: back →
      ((∃ fault, call.run format (use.after format front).log = .error fault) ↔
        call.Refused use.log)
  operation_iff : ∀ operation,
    Open use.names use.log.operation steps operation ↔
      operation = (use.after format steps).log.operation
  /-- The end of an operation brings back the one that was open when it began. -/
  restored : ∀ (front : List LogStep) (context : Nat) (body back : List LogStep),
    steps = front ++ .enter context :: (body ++ .leave context :: back) → Balanced body →
      (use.after format (front ++ .enter context :: (body ++ [.leave context]))).log.operation =
        (use.after format front).log.operation
  balanced : Balanced steps → (use.after format steps).log.operation = use.log.operation
  /-- A higher level leaves those of the entries that reach it. -/
  raised : ∀ level, use.log.threshold ≤ (use.atLevel level).log.threshold →
    ∃ written : List LogEntry,
      (use.after format steps).log.entries = use.log.entries ++ written ∧
      ((use.atLevel level).after format steps).log.entries =
        use.log.entries ++ written.filter fun entry =>
          (use.atLevel level).log.threshold ≤ entry.severity.level
  /-- Entries without an operation or extra values are written without these parts. -/
  parts : ∀ entry : LogEntry,
    Value.entry? "operation" (entry.fields use.log) = entry.operation.map Value.text ∧
      Value.entry? "extra" (entry.fields use.log) = entry.extra

/-! ## One call -/

namespace LogMethod

theorem told_eq (method : LogMethod) : method.told = (method.severity, method.severity.level) := by
  cases method <;> rfl

end LogMethod

namespace LogCall

variable {format : Formatter} {call : LogCall} {log : Log} {message : String}

theorem reaches_iff : call.Reaches log ↔ log.accepts call.severity = true := by
  rw [Reaches, LogMethod.told_eq, Log.accepts, decide_eq_true_eq]
  rfl

theorem says_iff : call.Says format message ↔ call.message? format = some message := by
  rw [Says, message?]
  cases arguments_eq : call.arguments with
  | nil => simp [eq_comm]
  | cons argument rest => simp

theorem Regular.exists_message (regular : call.Regular format) :
    ∃ message, call.message? format = some message := by
  rw [message?]
  rcases regular.fits with arguments_eq | filled
  · exact ⟨call.template, by rw [arguments_eq]; rfl⟩
  · obtain ⟨message, filled⟩ := Option.isSome_iff_exists.mp filled
    split
    · exact ⟨call.template, rfl⟩
    · exact ⟨message, filled⟩

theorem checkNames_of_free (free : call.NamesFree) : call.checkNames = .ok () := by
  have none_taken : call.named.find? (fun pair => takenNames.contains pair.1) = none := by
    rw [List.find?_eq_none]
    intro pair member taken
    exact free pair member (List.contains_iff_mem.mp taken)
  rw [checkNames, none_taken]

theorem checkNames_of_not_free (taken : ¬call.NamesFree) :
    ∃ fault, call.checkNames = .error fault := by
  rw [checkNames]
  cases found : call.named.find? (fun pair => takenNames.contains pair.1) with
  | some pair => exact ⟨_, rfl⟩
  | none =>
      rw [List.find?_eq_none] at found
      exact absurd
        (fun pair member held => found pair member (List.contains_iff_mem.mpr held)) taken

theorem Regular.attachments_eq (regular : call.Regular format) : call.attachments = .ok [] := by
  rw [attachments, Value.entry?_eq_none_iff.mpr regular.unattached]

theorem Regular.kept_eq (regular : call.Regular format) :
    call.kept =
      call.named.filter fun pair => pair.1 ∉ ["exc_info", "stack_info", "stacklevel"] := by
  rw [kept]
  apply List.filter_congr
  intro pair member
  have unattached := regular.unattached pair member
  simp [controlNames, unattached]

theorem Regular.entry_eq (regular : call.Regular format) (operation : Option String)
    (message : String) :
    call.entryIn operation message =
      { severity := call.severity, operation := operation, message := message,
        extra := call.extra [] } := by
  rw [extra, regular.kept_eq, entryIn, LogMethod.told_eq]
  cases call.named.filter fun pair => pair.1 ∉ ["exc_info", "stack_info", "stacklevel"] with
  | nil => rfl
  | cons pair rest => rfl

theorem depthIsNumber_iff :
    call.DepthIsNumber ↔
      ((Value.entry? "stacklevel" call.named).getD (.integer 1)).isNumber := by
  rw [DepthIsNumber]
  cases Value.entry? "stacklevel" call.named with
  | none => simp [Value.isNumber, Value.number?]
  | some depth => simp

theorem checkEntry_nil (call : LogCall) :
    call.checkEntry [] = if call.DepthIsNumber then .ok () else .error .depthNotNumber := by
  rw [checkEntry]
  by_cases number : call.DepthIsNumber
  · rw [if_pos number, if_neg]
    · rfl
    · simpa using depthIsNumber_iff.mp number
  · rw [if_neg number, if_pos]
    simpa using mt depthIsNumber_iff.mpr number

theorem run_of_refused (regular : call.Regular format) (refused : call.Refused log) :
    ∃ fault, call.run format log = .error fault := by
  rw [run]
  by_cases free : call.NamesFree
  · obtain taken | ⟨reached, depth⟩ := refused
    · exact absurd free taken
    · rw [checkNames_of_free free, regular.attachments_eq]
      simp only [bind, Except.bind, if_pos (reaches_iff.mp reached), checkEntry_nil, if_neg depth]
      exact ⟨_, rfl⟩
  · obtain ⟨fault, failed⟩ := checkNames_of_not_free free
    rw [failed]
    exact ⟨fault, rfl⟩

theorem run_of_not_refused (regular : call.Regular format)
    (filled : call.message? format = some message) (sensible : ¬call.Refused log) :
    call.run format log = .ok (log.write [call.entryIn log.operation message]) := by
  rw [Refused, not_or, Decidable.not_not, not_and, Decidable.not_not] at sensible
  have added : log.add call.severity message (call.extra []) =
      log.write [call.entryIn log.operation message] := by
    rw [Log.add_eq_write, regular.entry_eq]
  rw [run, checkNames_of_free sensible.1, regular.attachments_eq]
  by_cases reached : call.Reaches log
  · have number := sensible.2 reached
    simp only [bind, Except.bind, if_pos (reaches_iff.mp reached), checkEntry_nil, if_pos number,
      filled, added]
    rfl
  · simp only [bind, Except.bind, if_neg (mt reaches_iff.mpr reached), filled, added]
    rfl

theorem refused_iff (regular : call.Regular format) (log : Log) :
    (∃ fault, call.run format log = .error fault) ↔ call.Refused log := by
  constructor
  · rintro ⟨fault, failed⟩
    by_cases refused : call.Refused log
    · exact refused
    · obtain ⟨message, filled⟩ := regular.exists_message
      rw [run_of_not_refused regular filled refused] at failed
      contradiction
  · exact run_of_refused regular

/-- What a call has to tell while an operation is open: one entry, or none if it makes no sense. -/
def told (call : LogCall) (operation : Option String) (message : String) : List LogEntry :=
  if call.NamesFree ∧ call.DepthIsNumber then [call.entryIn operation message] else []

/-- A log keeps what a call has to tell if it reaches the level of the log. -/
theorem filter_told (regular : call.Regular format) (log : Log) (operation : Option String)
    (message : String) :
    ((call.told operation message).filter fun entry => log.accepts entry.severity) =
      if call.Reaches log ∧ call.NamesFree ∧ call.DepthIsNumber then
        [call.entryIn operation message]
      else [] := by
  rw [told]
  by_cases sensible : call.NamesFree ∧ call.DepthIsNumber
  · by_cases reached : call.Reaches log
    · rw [if_pos sensible, if_pos ⟨reached, sensible⟩, regular.entry_eq]
      simp [reaches_iff.mp reached]
    · rw [if_pos sensible, if_neg fun both => reached both.1, regular.entry_eq]
      simp [mt reaches_iff.mpr reached]
  · rw [if_neg sensible, if_neg fun both => sensible both.2, List.filter_nil]

end LogCall

/-! ## Steps -/

namespace LogUse

variable {format : Formatter} {call : LogCall} {message : String} {steps : List LogStep}

@[simp]
theorem next_enter (use : LogUse) (context : Nat) :
    use.next format (.enter context) = use.enter context := rfl

@[simp]
theorem next_leave (use : LogUse) (context : Nat) :
    use.next format (.leave context) = use.leave context := rfl

/-- A call that is refused leaves no mark, and any other writes what it has to tell. -/
theorem next_ask (regular : call.Regular format) (filled : call.message? format = some message)
    (use : LogUse) :
    use.next format (.ask call) =
      { use with log := use.log.write (call.told use.log.operation message) } := by
  rw [next, run]
  by_cases refused : call.Refused use.log
  · obtain ⟨fault, failed⟩ := LogCall.run_of_refused regular refused
    have silent : call.told use.log.operation message = [] := by
      rw [LogCall.told, if_neg]
      rintro ⟨free, number⟩
      exact refused.elim (fun taken => taken free) fun depth => depth.2 number
    rw [failed, silent, Log.write_nil]
    rfl
  · have written : use.log.write [call.entryIn use.log.operation message] =
        use.log.write (call.told use.log.operation message) := by
      rw [LogCall.Refused, not_or, Decidable.not_not, not_and, Decidable.not_not] at refused
      rw [Log.write, Log.write, LogCall.filter_told regular, regular.entry_eq]
      by_cases reached : call.Reaches use.log
      · simp [reached, refused.1, refused.2 reached, LogCall.reaches_iff.mp reached]
      · simp [reached, mt LogCall.reaches_iff.mpr reached]
    rw [LogCall.run_of_not_refused regular filled refused, written]
    rfl

theorem after_append (use : LogUse) (front back : List LogStep) :
    use.after format (front ++ back) = (use.after format front).after format back := by
  induction front generalizing use with
  | nil => rfl
  | cons step rest induction => exact induction (use.next format step)

theorem names_enter (use : LogUse) (context : Nat) : (use.enter context).names = use.names := by
  funext other
  rw [names, names, enter]
  dsimp only
  split
  case isTrue same =>
    rw [same]
    rfl
  case isFalse => rfl

@[simp]
theorem contexts_enter_self (use : LogUse) (context : Nat) :
    (use.enter context).contexts context =
      { use.contexts context with previous := use.log.operation } := by
  simp [enter, Log.enter]

theorem contexts_enter_of_ne (use : LogUse) {context other : Nat} (different : other ≠ context) :
    (use.enter context).contexts other = use.contexts other := by
  simp [enter, different]

/-- What no step of a program changes: the level of the log, and the names of the operations. -/
theorem next_keeps {step : LogStep} (regular : step.Regular format) (use : LogUse) :
    (use.next format step).log.level = use.log.level ∧
      (use.next format step).names = use.names := by
  cases step with
  | enter context => exact ⟨rfl, names_enter use context⟩
  | leave context => exact ⟨rfl, rfl⟩
  | ask call =>
      obtain ⟨message, filled⟩ := LogCall.Regular.exists_message regular
      rw [next_ask regular filled]
      exact ⟨rfl, rfl⟩

theorem after_keeps (regular : ∀ step ∈ steps, step.Regular format) (use : LogUse) :
    (use.after format steps).log.level = use.log.level ∧
      (use.after format steps).names = use.names := by
  induction steps generalizing use with
  | nil => exact ⟨rfl, rfl⟩
  | cons step rest induction =>
      obtain ⟨step_regular, rest_regular⟩ := List.forall_mem_cons.mp regular
      obtain ⟨level_eq, names_eq⟩ := next_keeps step_regular use
      obtain ⟨rest_level_eq, rest_names_eq⟩ := induction rest_regular (use.next format step)
      exact ⟨rest_level_eq.trans level_eq, rest_names_eq.trans names_eq⟩

theorem reaches_after (regular : ∀ step ∈ steps, step.Regular format) (use : LogUse)
    (call : LogCall) :
    call.Reaches (use.after format steps).log ↔ call.Reaches use.log := by
  rw [LogCall.Reaches, LogCall.Reaches, Log.threshold, Log.threshold,
    (after_keeps regular use).1]

/-- A context that is not entered keeps the operation that it saved. -/
theorem contexts_after {context : Nat} (regular : ∀ step ∈ steps, step.Regular format)
    (not_entered : .enter context ∉ steps) (use : LogUse) :
    (use.after format steps).contexts context = use.contexts context := by
  induction steps generalizing use with
  | nil => rfl
  | cons step rest induction =>
      obtain ⟨step_regular, rest_regular⟩ := List.forall_mem_cons.mp regular
      rw [List.mem_cons, not_or] at not_entered
      rw [after, induction rest_regular not_entered.2]
      cases step with
      | enter other =>
          have different : context ≠ other := fun same => not_entered.1 (same ▸ rfl)
          exact contexts_enter_of_ne use different
      | leave other => rfl
      | ask call =>
          obtain ⟨message, filled⟩ := LogCall.Regular.exists_message step_regular
          rw [next_ask step_regular filled]

/-- What reaches a higher level reaches a lower one. -/
theorem filter_accepts {loud quiet : Log} (level_le : loud.threshold ≤ quiet.threshold)
    (entries : List LogEntry) :
    ((entries.filter fun entry => loud.accepts entry.severity).filter
        fun entry => quiet.accepts entry.severity) =
      entries.filter fun entry => quiet.accepts entry.severity := by
  rw [List.filter_filter]
  apply List.filter_congr
  intro entry _
  change loud.effectiveLevel ≤ quiet.effectiveLevel at level_le
  by_cases reached : quiet.effectiveLevel ≤ entry.severity.level
  · simp [Log.accepts, reached, Nat.le_trans level_le reached]
  · simp [Log.accepts, reached]

/-- A quieter log that is used alike keeps those entries of a louder one that reach its level. -/
theorem exists_entries_after (regular : ∀ step ∈ steps, step.Regular format)
    {loud quiet : LogUse} (same_operation : loud.log.operation = quiet.log.operation)
    (same_contexts : loud.contexts = quiet.contexts)
    (level_le : loud.log.threshold ≤ quiet.log.threshold) :
    ∃ written : List LogEntry,
      (loud.after format steps).log.entries = loud.log.entries ++ written ∧
      (quiet.after format steps).log.entries =
        quiet.log.entries ++ written.filter fun entry => quiet.log.accepts entry.severity := by
  induction steps generalizing loud quiet with
  | nil => exact ⟨[], (List.append_nil _).symm, (List.append_nil _).symm⟩
  | cons step rest induction =>
      obtain ⟨step_regular, rest_regular⟩ := List.forall_mem_cons.mp regular
      cases step with
      | enter context =>
          have operation_eq : (loud.enter context).log.operation =
              (quiet.enter context).log.operation := by
            simp [enter, Log.enter, same_contexts]
          have contexts_eq : (loud.enter context).contexts = (quiet.enter context).contexts := by
            simp [enter, Log.enter, same_contexts, same_operation]
          exact induction rest_regular operation_eq contexts_eq level_le
      | leave context =>
          have operation_eq : (loud.leave context).log.operation =
              (quiet.leave context).log.operation := by
            simp [leave, Log.leave, same_contexts]
          exact induction rest_regular operation_eq same_contexts level_le
      | ask call =>
          obtain ⟨message, filled⟩ := LogCall.Regular.exists_message step_regular
          let told := call.told quiet.log.operation message
          let louder : LogUse := { loud with log := loud.log.write told }
          let quieter : LogUse := { quiet with log := quiet.log.write told }
          have loud_next : loud.next format (.ask call) = louder := by
            rw [next_ask step_regular filled, same_operation]
          have quiet_next : quiet.next format (.ask call) = quieter :=
            next_ask step_regular filled quiet
          have operation_eq : louder.log.operation = quieter.log.operation := same_operation
          have contexts_eq : louder.contexts = quieter.contexts := same_contexts
          obtain ⟨written, loud_eq, quiet_eq⟩ :=
            induction rest_regular operation_eq contexts_eq level_le
          refine ⟨(told.filter fun entry => loud.log.accepts entry.severity) ++ written, ?_, ?_⟩
          · rw [after, loud_next, loud_eq, ← List.append_assoc]
            rfl
          · rw [after, quiet_next, quiet_eq, List.filter_append, filter_accepts level_le,
              ← List.append_assoc]
            rfl

end LogUse

/-! ## Nesting -/

namespace LogStep

variable {format : Formatter} {names : Nat → String} {before operation : Option String}
  {front back steps body : List LogStep}

theorem NoReentry.of_append_left (single : NoReentry (front ++ back)) : NoReentry front := by
  intro start context between rest split
  exact single start context between (rest ++ back) (by simp [split])

theorem NoReentry.of_append_right (single : NoReentry (front ++ back)) : NoReentry back := by
  intro start context between rest split
  exact single (front ++ start) context between rest (by simp [split])

theorem NoReentry.of_cons {step : LogStep} (single : NoReentry (step :: steps)) :
    NoReentry steps :=
  @of_append_right [step] steps single

/-- Nothing is entered again by steps that enter another context each time. -/
theorem noReentry_of_nodup (distinct : (steps.filterMap entered?).Nodup) : NoReentry steps := by
  rintro front context between back rfl
  simp [List.filterMap_append, entered?, List.nodup_append] at distinct

/-- What balanced steps leave up to some point, they have entered up to that point. -/
theorem Balanced.enter_mem {context : Nat} (balanced : Balanced steps)
    (split : front ++ back = steps) (left : .leave context ∈ front) : .enter context ∈ front := by
  induction balanced generalizing front back with
  | nil =>
      obtain ⟨rfl, _⟩ := List.append_eq_nil_iff.mp split
      contradiction
  | ask call _ later =>
      cases front with
      | nil => contradiction
      | cons step front =>
          obtain ⟨rfl, rest_split⟩ := List.cons.inj split
          have left_behind : .leave context ∈ front := by simpa using left
          exact List.mem_cons_of_mem _ (later rest_split left_behind)
  | operation other inner_balanced _ inner later =>
      cases front with
      | nil => contradiction
      | cons step front =>
          obtain ⟨rfl, rest_split⟩ := List.cons.inj split
          have left_behind : .leave context ∈ front := by simpa using left
          by_cases same : context = other
          · rw [same]
            exact List.mem_cons_self
          · apply List.mem_cons_of_mem
            obtain ⟨_, body_split, _⟩ | ⟨behind, rfl, behind_split⟩ :=
              List.append_eq_append_iff.mp rest_split
            · exact inner body_split.symm left_behind
            · rw [List.mem_append] at left_behind ⊢
              rcases left_behind with left_inside | left_behind
              · exact .inl (inner (List.append_nil _) left_inside)
              · cases behind with
                | nil => contradiction
                | cons step behind =>
                    obtain ⟨rfl, later_split⟩ := List.cons.inj behind_split
                    have left_later : .leave context ∈ behind := by simpa [same] using left_behind
                    exact .inr (List.mem_cons_of_mem _ (later later_split.symm left_later))

/-- A context that is not entered again while it is open is not entered among balanced steps that
follow. -/
theorem Balanced.not_enter_mem {context : Nat} (balanced : Balanced body)
    (single : NoReentry (.enter context :: (body ++ back))) : .enter context ∉ body := by
  intro entered
  obtain ⟨between, rest, rfl, not_before⟩ := List.eq_append_cons_of_mem entered
  have left := single [] context between (rest ++ back) (by simp)
  exact not_before (balanced.enter_mem rfl left)

/-- Balanced steps bring back the operation that was open before them. -/
theorem Balanced.operation_eq (balanced : Balanced steps) (single : NoReentry steps)
    (regular : ∀ step ∈ steps, step.Regular format) (use : LogUse) :
    (use.after format steps).log.operation = use.log.operation := by
  induction balanced generalizing use with
  | nil => rfl
  | ask call _ later =>
      obtain ⟨call_regular, rest_regular⟩ := List.forall_mem_cons.mp regular
      obtain ⟨message, filled⟩ := LogCall.Regular.exists_message call_regular
      rw [LogUse.after, LogUse.next_ask call_regular filled]
      exact later single.of_cons rest_regular _
  | @operation context body rest inner_balanced _ inner later =>
      obtain ⟨_, regular⟩ := List.forall_mem_cons.mp regular
      obtain ⟨body_regular, regular⟩ := List.forall_mem_append.mp regular
      obtain ⟨_, rest_regular⟩ := List.forall_mem_cons.mp regular
      have not_entered := inner_balanced.not_enter_mem single
      have rest_single := single.of_cons.of_append_right.of_cons
      -- The context still holds what it saved, for nothing between enters it again.
      have saved_eq := LogUse.contexts_after body_regular not_entered (use.enter context)
      have left_eq : (((use.enter context).after format body).leave context).log.operation =
          use.log.operation := by
        rw [LogUse.leave, Log.leave, saved_eq, LogUse.contexts_enter_self]
      rw [LogUse.after, LogUse.after_append, LogUse.after, later rest_single rest_regular]
      exact left_eq

theorem Open.ask (opened : Open names before steps operation) (call : LogCall) :
    Open names before (.ask call :: steps) operation := by
  cases opened with
  | outside balanced => exact .outside (.ask call balanced)
  | inside front context balanced => exact .inside (.ask call :: front) context balanced

theorem Open.behind_operation (opened : Open names before steps operation) (context : Nat)
    (inner : Balanced body) :
    Open names before (.enter context :: (body ++ .leave context :: steps)) operation := by
  cases opened with
  | outside balanced => exact .outside (.operation context inner balanced)
  | inside front last balanced =>
      have split : Open names before
          ((.enter context :: (body ++ .leave context :: front)) ++ .enter last :: _)
          (some (names last)) := .inside _ last balanced
      simpa using split

theorem Open.in_operation (opened : Open names before steps operation) (context : Nat) :
    ∃ operation, Open names before (.enter context :: steps) operation := by
  cases opened with
  | outside balanced => exact ⟨_, .inside [] context balanced⟩
  | inside front last balanced => exact ⟨_, .inside (.enter context :: front) last balanced⟩

/-- At each point of balanced steps some operation is open, or the one from before them. -/
theorem Balanced.exists_open {total rest : List LogStep} (balanced : Balanced total)
    (split : steps ++ rest = total) (names : Nat → String) (before : Option String) :
    ∃ operation, Open names before steps operation := by
  induction balanced generalizing steps rest with
  | nil =>
      obtain ⟨rfl, _⟩ := List.append_eq_nil_iff.mp split
      exact ⟨_, .outside .nil⟩
  | ask call _ later =>
      cases steps with
      | nil => exact ⟨_, .outside .nil⟩
      | cons step front =>
          obtain ⟨rfl, rest_split⟩ := List.cons.inj split
          obtain ⟨operation, opened⟩ := later rest_split
          exact ⟨operation, opened.ask call⟩
  | operation context inner_balanced _ inner later =>
      cases steps with
      | nil => exact ⟨_, .outside .nil⟩
      | cons step front =>
          obtain ⟨rfl, rest_split⟩ := List.cons.inj split
          obtain ⟨_, body_split, _⟩ | ⟨behind, rfl, behind_split⟩ :=
            List.append_eq_append_iff.mp rest_split
          · obtain ⟨_, opened⟩ := inner body_split.symm
            exact opened.in_operation context
          · cases behind with
            | nil =>
                rw [List.append_nil]
                exact ⟨_, .inside [] context inner_balanced⟩
            | cons step behind =>
                obtain ⟨rfl, later_split⟩ := List.cons.inj behind_split
                obtain ⟨operation, opened⟩ := later later_split.symm
                exact ⟨operation, opened.behind_operation context inner_balanced⟩

theorem WellNested.exists_open (nested : WellNested steps) (names : Nat → String)
    (before : Option String) : ∃ operation, Open names before steps operation := by
  obtain ⟨rest, balanced⟩ := nested
  exact balanced.exists_open rfl names before

theorem WellNested.of_append (nested : WellNested (front ++ back)) : WellNested front := by
  obtain ⟨rest, balanced⟩ := nested
  rw [List.append_assoc] at balanced
  exact ⟨back ++ rest, balanced⟩

/-- The operation that a log has after some steps is the one that is open. -/
theorem Open.operation_eq {use : LogUse}
    (opened : Open use.names use.log.operation steps operation) (single : NoReentry steps)
    (regular : ∀ step ∈ steps, step.Regular format) :
    operation = (use.after format steps).log.operation := by
  cases opened with
  | outside balanced => exact (balanced.operation_eq single regular use).symm
  | @inside front context body balanced =>
      obtain ⟨front_regular, regular⟩ := List.forall_mem_append.mp regular
      obtain ⟨_, body_regular⟩ := List.forall_mem_cons.mp regular
      have body_eq := balanced.operation_eq single.of_append_right.of_cons body_regular
        ((use.after format front).enter context)
      have names_eq := (LogUse.after_keeps front_regular use).2
      rw [LogUse.after_append, LogUse.after, LogUse.next_enter, body_eq, ← names_eq]
      rfl

end LogStep

namespace LogUse

open LogStep

/-- The parts of a written entry for its operation and its extra values are there if it has them. -/
theorem fields_entry? (log : Log) (entry : LogEntry) :
    Value.entry? "operation" (entry.fields log) = entry.operation.map Value.text ∧
      Value.entry? "extra" (entry.fields log) = entry.extra := by
  rw [LogEntry.fields]
  cases entry.operation <;> cases entry.extra <;> simp [Value.entry?]

/-- However the operations of a program nest, its log follows them. -/
theorem follows_of_wellNested (format : Formatter) (use : LogUse) (steps : List LogStep)
    (nested : WellNested steps) (single : NoReentry steps)
    (regular : ∀ step ∈ steps, step.Regular format) : use.Follows format steps := by
  have front_regular {front back : List LogStep} (split : steps = front ++ back) :
      ∀ step ∈ front, step.Regular format :=
    fun step member => regular step (split ▸ List.mem_append_left back member)
  have call_regular {front back : List LogStep} {call : LogCall}
      (split : steps = front ++ .ask call :: back) : call.Regular format :=
    regular (.ask call) (by simp [split])
  constructor
  case asked =>
    intro front call back split
    obtain ⟨operation, opened⟩ :=
      (split ▸ nested).of_append.exists_open use.names use.log.operation
    obtain ⟨message, filled⟩ := (call_regular split).exists_message
    refine ⟨operation, message, opened, LogCall.says_iff.mpr filled, ?_⟩
    have front_single := (split ▸ single).of_append_left
    have reaches_iff := reaches_after (front_regular split) use call
    rw [opened.operation_eq front_single (front_regular split), after_append, after, after,
      next_ask (call_regular split) filled, Log.write, LogCall.filter_told (call_regular split)]
    simp only [reaches_iff]
  case silent =>
    intro front step back split other
    rw [after_append]
    cases step with
    | enter context => rfl
    | leave context => rfl
    | ask call => exact absurd rfl (other call)
  case refused =>
    intro front call back split
    rw [LogCall.refused_iff (call_regular split), LogCall.Refused, LogCall.Refused,
      reaches_after (front_regular split)]
  case operation_iff =>
    intro operation
    constructor
    · intro opened
      exact opened.operation_eq single regular
    · intro operation_eq
      obtain ⟨other, opened⟩ := nested.exists_open use.names use.log.operation
      rw [operation_eq, ← opened.operation_eq single regular]
      exact opened
  case restored =>
    intro front context body back split balanced
    have steps_eq : steps = (front ++ .enter context :: (body ++ [.leave context])) ++ back := by
      simp [split]
    have inner_single := (steps_eq ▸ single).of_append_left.of_append_right
    have inner_regular := (List.forall_mem_append.mp (front_regular steps_eq)).2
    rw [after_append]
    exact (Balanced.operation context balanced .nil).operation_eq inner_single inner_regular _
  case balanced => exact fun balanced => balanced.operation_eq single regular use
  case raised =>
    intro level level_le
    exact exists_entries_after regular rfl rfl level_le
  case parts => exact fun entry => fields_entry? use.log entry

/-- A program with one operation inside another. -/
def sampleSteps : List LogStep :=
  [.enter 0,
    .ask
      { method := .info, template := "%s has", arguments := [.text "a"]
        named := [("bytes", .integer 7), ("stacklevel", .fraction "1.5")] },
    .enter 1,
    .ask { method := .debug, template := "no symbols" },
    .leave 1]

/-- An operation that is still open has what is told after a nested one, without the values that
only steer the call. -/
theorem follows_sample :
    let use : LogUse :=
      { log := { tool := "sample", level := 20 }
        contexts := fun context => { operation := if context = 0 then "decode" else "symbols" } }
    let failure : LogCall :=
      { method := .exception, template := "lost", named := [("exc_info", .boolean false)] }
    let steps := sampleSteps ++ [.ask failure]
    WellNested steps ∧ NoReentry steps ∧ (∀ step ∈ steps, step.Regular Template.fill?) ∧
      (use.after Template.fill? steps).log.operation = some "decode" ∧
      (use.after Template.fill? steps).log.entries =
        (use.after Template.fill? sampleSteps).log.entries ++
          [{ severity := .error, operation := some "decode", message := "lost" }] := by
  intro use failure steps
  have inner (last : List LogStep) (balanced : Balanced last) :
      Balanced (sampleSteps.tail ++ last) :=
    .ask _ (.operation 1 (.ask _ .nil) balanced)
  have front_balanced := inner [] .nil
  have steps_balanced := inner [.ask failure] (.ask failure .nil)
  have nested : WellNested steps := ⟨[.leave 0], .operation 0 steps_balanced .nil⟩
  have single : NoReentry steps := noReentry_of_nodup (by decide)
  have regular : ∀ step ∈ steps, step.Regular Template.fill? := by
    simp only [steps, sampleSteps, List.cons_append, List.nil_append, List.forall_mem_cons]
    refine ⟨trivial, ⟨.inr (by decide), by decide⟩, trivial, ⟨.inl rfl, by decide⟩, trivial,
      ⟨.inl rfl, by decide⟩, by simp⟩
  have follows := follows_of_wellNested Template.fill? use steps nested single regular
  obtain ⟨operation, message, opened, said, written⟩ := follows.asked sampleSteps failure [] rfl
  obtain rfl : message = "lost" := said.1 rfl
  have front_regular := (List.forall_mem_append.mp regular).1
  have front_open : Open use.names use.log.operation sampleSteps (some "decode") :=
    .inside [] 0 front_balanced
  have operation_eq : operation = some "decode" :=
    (opened.operation_eq single.of_append_left front_regular).trans
      (front_open.operation_eq single.of_append_left front_regular).symm
  rw [if_pos (by decide), operation_eq] at written
  have steps_open : Open use.names use.log.operation steps (some "decode") :=
    .inside [] 0 steps_balanced
  exact ⟨nested, single, regular, ((follows.operation_iff _).mp steps_open).symm, written⟩

/-- A context that is entered again while it is open brings back its own operation, and a call with
a depth that is no number, or with a value under the name of one of its own parts, writes nothing,
though it reaches the level. -/
theorem not_follows_without_sense :
    let use : LogUse :=
      { log := { tool := "sample", level := 20 }, contexts := fun _ => { operation := "decode" } }
    let again : List LogStep := [.enter 0, .enter 0, .leave 0, .leave 0]
    let deep : LogCall :=
      { method := .info, template := "lost", named := [("stacklevel", .text "2")] }
    let renamed : LogCall := { method := .info, template := "lost", named := [("msg", .integer 1)] }
    (Balanced again ∧ (use.after Template.fill? again).log.operation ≠ use.log.operation) ∧
      (deep.Regular Template.fill? ∧ ¬deep.WritesOne Template.fill? use) ∧
      renamed.Regular Template.fill? ∧ ¬renamed.WritesOne Template.fill? use := by
  intro use again deep renamed
  have deep_says : deep.Says Template.fill? "lost" :=
    ⟨fun _ => rfl, fun filled => absurd rfl filled⟩
  have renamed_says : renamed.Says Template.fill? "lost" :=
    ⟨fun _ => rfl, fun filled => absurd rfl filled⟩
  refine ⟨⟨.operation 0 (.operation 0 .nil .nil) .nil, by decide⟩, ⟨⟨.inl rfl, by decide⟩, ?_⟩,
    ⟨.inl rfl, by decide⟩, ?_⟩
  · intro writes
    have lengths := congrArg List.length (writes "lost" deep_says)
    contradiction
  · intro writes
    have lengths := congrArg List.length (writes "lost" renamed_says)
    contradiction

end LogUse
end ElfInspect
