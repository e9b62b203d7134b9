import ElfInspect.Log.Basic

/-!
# What actions write to a log

An action writes the entries that it has to tell, and of those the log keeps the ones that reach its
level.  What an action tells depends on nothing in the log but the operation that is open, and it
leaves that operation open.
-/

namespace ElfInspect

namespace Log

/-- The log with those of some entries that reach its level. -/
def write (log : Log) (entries : List LogEntry) : Log :=
  { log with entries := log.entries ++ entries.filter fun entry => log.accepts entry.severity }

variable {log : Log} {entries : List LogEntry}

@[simp] theorem operation_write : (log.write entries).operation = log.operation := rfl

@[simp] theorem elapsed_write : (log.write entries).elapsed = log.elapsed := rfl

@[simp]
theorem write_nil (log : Log) : log.write [] = log := by
  rw [write, List.filter_nil, List.append_nil]

@[simp]
theorem write_write (log : Log) (first second : List LogEntry) :
    (log.write first).write second = log.write (first ++ second) := by
  simp only [write, List.filter_append, List.append_assoc]
  rfl

theorem add_eq_write (log : Log) (severity : Severity) (message : String) (extra : Option Value) :
    log.add severity message extra =
      log.write
        [{ severity := severity, operation := log.operation, message := message,
           extra := extra }] := by
  rw [add, write]
  by_cases reaches : log.accepts severity = true
  · simp only [if_pos reaches, List.filter_cons, List.filter_nil]
  · simp only [if_neg reaches, List.filter_cons, List.filter_nil, List.append_nil]

/-- What is written during an operation remains when it ends. -/
theorem leave_write_enter (log : Log) (context : LogContext) (entries : List LogEntry) :
    ((log.enter context).2.write entries).leave (log.enter context).1 = log.write entries := rfl

end Log

namespace Logged

/-- Whatever the log, an action has a result, and tells entries that depend on the open operation
alone. -/
def Tells {α : Type} (action : Logged α) (result : α)
    (entries : Option String → List LogEntry) : Prop :=
  ∀ log : Log, action log = (result, log.write (entries log.operation))

variable {α β : Type} {action : Logged α} {result : α} {entries : Option String → List LogEntry}

theorem Tells.congr {other : Option String → List LogEntry} (told : Tells action result entries)
    (same : ∀ operation, entries operation = other operation) : Tells action result other := by
  rwa [← funext same]

theorem tells_pure (result : α) : Tells (pure result) result fun _ => [] := by
  intro log
  rw [Log.write_nil]
  rfl

theorem Tells.bind {next : α → Logged β} {later : β}
    {laterEntries : Option String → List LogEntry} (first : Tells action result entries)
    (second : Tells (next result) later laterEntries) :
    Tells (action >>= next) later fun operation => entries operation ++ laterEntries operation := by
  intro log
  change (next (action log).1) (action log).2 = _
  rw [first log, second, Log.operation_write, Log.write_write]

/-- A result that is given after an action adds no entries. -/
theorem Tells.giving (told : Tells action result entries) (later : β) :
    Tells
      (do
        let _ ← action
        return later)
      later entries := by
  have returned : Tells (action >>= fun _ => pure later) later
      fun operation => entries operation ++ [] := told.bind (tells_pure later)
  exact returned.congr fun _ => List.append_nil _

theorem tells_note (severity : Severity) (message : String) :
    Tells (note severity message) () fun operation =>
      [{ severity := severity, operation := operation, message := message }] := by
  intro log
  rw [← Log.add_eq_write]
  rfl

/-- A remark that is made on a condition is told on that condition. -/
theorem tells_remark (condition : Prop) [Decidable condition] (severity : Severity)
    (message : String) (result : α) :
    Tells
      (do
        if condition then note severity message
        return result)
      result fun operation =>
        if condition then [{ severity := severity, operation := operation, message := message }]
        else [] := by
  by_cases remarked : condition
  · simp only [if_pos remarked]
    exact (tells_note severity message).giving result
  · simp only [if_neg remarked]
    exact tells_pure result

theorem within_eq (operation : String) (action : Logged α) (log : Log) :
    within operation action log =
      ((action (log.enter { operation := operation }).2).1,
        (action (log.enter { operation := operation }).2).2.leave
          (log.enter { operation := operation }).1) := rfl

/-- An operation tells what its action does, under its own name. -/
theorem Tells.within (operation : String) (told : Tells action result entries) :
    Tells (within operation action) result fun _ => entries (some operation) := by
  intro log
  rw [within_eq, told, Log.leave_write_enter]
  rfl

/-- Noting each of some things tells one entry after the other. -/
theorem tells_forM (items : List β) {act : β → Logged Unit}
    {entry : β → Option String → LogEntry}
    (told : ∀ item, Tells (act item) () fun operation => [entry item operation]) :
    Tells (items.forM act) () fun operation => items.map fun item => entry item operation := by
  induction items with
  | nil => exact tells_pure ()
  | cons item rest induction => exact (told item).bind induction

/-- The entry for the start of an action. -/
def startEntry (label : String) (operation : Option String) : LogEntry :=
  { severity := .debug, operation := operation, message := "Started: " ++ label }

/-- The entry for the completion of an action. -/
def completionEntry (label elapsed : String) (operation : Option String) : LogEntry :=
  { severity := .debug, operation := operation
    message := "Completed: " ++ label ++ " (" ++ elapsed ++ ")" }

/-- What a timed action tells stands between the entries for its start and its completion. -/
theorem Tells.timed (label : String) (entries : Option String → List LogEntry)
    (told : Tells action result entries) (log : Log) :
    timed label action log =
      (result, log.write
        (startEntry label log.operation :: entries log.operation ++
          [completionEntry label log.elapsed log.operation])) := by
  let opening : Logged α := do
    note .debug ("Started: " ++ label)
    action
  have opening_told : Tells opening result fun operation =>
      startEntry label operation :: entries operation := (tells_note _ _).bind told
  change ((opening log).1, (opening log).2.add .debug
    ("Completed: " ++ label ++ " (" ++ (opening log).2.elapsed ++ ")")) = _
  rw [opening_told, Log.add_eq_write, Log.operation_write, Log.elapsed_write, Log.write_write]
  rfl

end Logged
end ElfInspect
