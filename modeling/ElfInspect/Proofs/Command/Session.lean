import ElfInspect.Command.Run
import ElfInspect.Proofs.Display
import ElfInspect.Proofs.Files.DumpFile
import ElfInspect.Proofs.Files.Volume

/-!
# Runs file by file

What a run adds for a file depends on that file by itself: on what its path leads to when the first
file is taken, and not on the files before it.  So the session after any number of files is put
together from what each of them adds.
-/

namespace ElfInspect

namespace Command

namespace Plan

/-! ## What a file adds -/

/-- The log before the first file. -/
def freshLog (plan : Plan) : Log := (Session.start plan).log

/-- The result for a file by itself. -/
def result (plan : Plan) (name : String) : Except DumpFault Dump :=
  Dump.ofFile plan.volume plan.settings.dump.maxFileSize.number? name

/-- The failure that an outcome stands for. -/
def failureOf (name : String) : Except DumpFault Dump → Option Failure
  | .ok _ => none
  | .error fault => some { path := name, message := fault.message }

/-- The dump that a file adds to a session. -/
def dump? (plan : Plan) (name : String) : Option Dump := (plan.result name).toOption

/-- The failure that a file adds to a session. -/
def failure? (plan : Plan) (name : String) : Option Failure := failureOf name (plan.result name)

/-- The entry about a failure. -/
def failedEntry (failure : Failure) : LogEntry :=
  { severity := .debug, message := "Decoding " ++ failure.path ++ " failed" }

/-- What is told of a failure. -/
def failurePage (plan : Plan) (failure : Failure) : Page :=
  Console.print plan.environment.diagnostics
    ("[dump.error]error:[/dump.error] " ++
      Markup.escape (failure.path ++ ": " ++ failure.message))

/-- The entries about the decoding of a file. -/
def decodingEntries (plan : Plan) (name : String) : List LogEntry :=
  Dump.fileEntries (Path.ofText name) plan.freshLog
    (Dump.readFile plan.volume plan.settings.dump.maxFileSize.number? (Path.ofText name))

/-- The entries about a file. -/
def entries (plan : Plan) (name : String) : List LogEntry :=
  plan.decodingEntries name ++ (plan.failure? name).toList.map failedEntry

/-- The entries of the log that are told as diagnostics. -/
def logged (plan : Plan) (entries : List LogEntry) : List Diagnostic :=
  (entries.filter fun entry => plan.freshLog.accepts entry.severity).map .entry

/-- The diagnostics about a file. -/
def told (plan : Plan) (name : String) : List Diagnostic :=
  plan.logged (plan.entries name) ++
    (plan.failure? name).toList.flatMap fun failure =>
      Diagnostic.ofPage (plan.failurePage failure)

/-- What is shown of the file at a place among the arguments. -/
def shown (plan : Plan) (index : Nat) (name : String) : List String :=
  (plan.dump? name).toList.flatMap fun dump =>
    if plan.invocation.json then [] else (plan.page index name dump).lines

/-- Why what is written about an outcome stops, if it does. -/
def faultOf (plan : Plan) (name : String) : Except DumpFault Dump → Option PageFault
  | .ok dump => (plan.block name dump).fault
  | .error fault => (plan.failurePage { path := name, message := fault.message }).fault

/-- Why what is written about a file stops, if it does. -/
def pageFault? (plan : Plan) (name : String) : Option PageFault :=
  plan.faultOf name (plan.result name)

/-- The marks of what is written about a file fit together. -/
def Renders (plan : Plan) (name : String) : Prop := plan.pageFault? name ≠ some .marks

section

variable {plan : Plan} {name : String} {dump : Dump} {fault : DumpFault}

theorem dump?_of_ok (result_eq : plan.result name = .ok dump) : plan.dump? name = some dump := by
  rw [dump?, result_eq]
  rfl

theorem failure?_of_ok (result_eq : plan.result name = .ok dump) : plan.failure? name = none := by
  rw [failure?, result_eq, failureOf]

theorem dump?_of_error (result_eq : plan.result name = .error fault) : plan.dump? name = none := by
  rw [dump?, result_eq]
  rfl

theorem failure?_of_error (result_eq : plan.result name = .error fault) :
    plan.failure? name = some { path := name, message := fault.message } := by
  rw [failure?, result_eq, failureOf]

/-- What leads a page is no reason to stop. -/
theorem fault_page (plan : Plan) (index : Nat) (name : String) (dump : Dump) :
    (plan.page index name dump).fault = (plan.block name dump).fault := by
  have lead_fault : (if plan.announces && index != 0 then Console.blank else {}).fault = none := by
    cases plan.announces && index != 0 <;> rfl
  rw [page, Page.fault_append, lead_fault, Option.none_or]

theorem pageFault?_of_ok (result_eq : plan.result name = .ok dump) :
    plan.pageFault? name = (plan.block name dump).fault := by
  rw [pageFault?, result_eq, faultOf]

theorem pageFault?_of_error (result_eq : plan.result name = .error fault) :
    plan.pageFault? name =
      (plan.failurePage { path := name, message := fault.message }).fault := by
  rw [pageFault?, result_eq, faultOf]

theorem complaint_eq (plan : Plan) (failure : Failure) :
    plan.complaint failure = plan.failurePage failure := by
  have lead_eq : Markup.mark "dump.error" "error:" ++ " " = "[dump.error]error:[/dump.error] " := by
    decide
  rw [complaint, failurePage, Console.error, lead_eq]

end

/-- A file adds a dump or a failure under its name, and not both. -/
theorem dump_or_failure (plan : Plan) (name : String) :
    (∃ dump, plan.dump? name = some dump ∧ plan.failure? name = none) ∨
      ∃ message, plan.dump? name = none ∧
        plan.failure? name = some { path := name, message := message } := by
  cases result_eq : plan.result name with
  | ok dump => exact .inl ⟨dump, dump?_of_ok result_eq, failure?_of_ok result_eq⟩
  | error fault =>
      exact .inr ⟨fault.message, dump?_of_error result_eq, failure?_of_error result_eq⟩

/-! ## Plans that can be carried out -/

/-- A plan under settings that are numbers where numbers are needed. -/
structure Sound (plan : Plan) : Prop where
  limit : ∃ limit, plan.settings.dump.maxFileSize.number? = some limit
  width : ∃ width, plan.settings.dump.nameWidth.number? = some width

/-- A path leads neither to nor through the log file or one of its backups. -/
def KeepsOffLog (plan : Plan) (name : String) : Prop :=
  ∀ file ∈ plan.logFile, ∀ place ∈ file.slots,
    ¬ plan.volume.LeadsThrough (Path.ofText name) place

variable {plan : Plan} {name : String}

theorem find_volumeAfter (apart : plan.KeepsOffLog name) (log : Log) :
    (plan.volumeAfter log).find (Path.ofText name) = plan.volume.find (Path.ofText name) := by
  rw [volumeAfter]
  cases logFile_eq : plan.logFile with
  | none => rfl
  | some file => exact (file.alikeBut_write plan.volume _).find_eq (apart file logFile_eq)

/-- A file gives its result by itself, whatever was logged before. -/
theorem decode_eq (apart : plan.KeepsOffLog name) (entries : List LogEntry) :
    plan.decode name (plan.freshLog.write entries) =
      (plan.result name, (plan.freshLog.write entries).write (plan.decodingEntries name)) := by
  rw [decode, Dump.decodeFile_congr (find_volumeAfter apart _), Dump.decodeFile_eq,
    Dump.fileEntries_write, result, decodingEntries]

theorem Sound.namesFit_block (sound : plan.Sound) (name : String) (dump : Dump) :
    (plan.block name dump).NamesFit := by
  obtain ⟨width, width_eq⟩ := sound.width
  rw [block, width_eq]
  refine Page.namesFit_append.mpr ⟨?_, fun _ => Display.namesFit_page _ _ _ _⟩
  cases plan.announces with
  | false => exact nofun
  | true => exact Console.namesFit_print _ _

/-- The width of names stops nothing. -/
theorem Sound.pageFault?_eq_none_iff (sound : plan.Sound) :
    plan.pageFault? name = none ↔ plan.Renders name := by
  have width_fits : plan.pageFault? name ≠ some .nameWidth := by
    rw [pageFault?]
    cases plan.result name with
    | ok dump => exact sound.namesFit_block name dump
    | error fault => exact Console.namesFit_print _ _
  rw [Renders]
  cases fault_eq : plan.pageFault? name with
  | none => simp
  | some fault =>
      cases fault with
      | nameWidth => exact absurd fault_eq width_fits
      | marks => simp

theorem Sound.result_ne_limitNotNumber (sound : plan.Sound) (name : String) :
    plan.result name ≠ .error .limitNotNumber := by
  obtain ⟨limit, limit_eq⟩ := sound.limit
  rw [result, limit_eq]
  exact Dump.ofFile_ne_limitNotNumber

end Plan

namespace Session

open Plan

variable {plan : Plan} {name : String}

/-! ## One more file -/

/-- The session after files that each added what they add by themselves. -/
def after (plan : Plan) (files : List String) : Session :=
  { log := plan.freshLog.write (files.flatMap plan.entries)
    stdout := (files.mapIdx plan.shown).flatten
    stderr := files.flatMap plan.told
    dumps := files.filterMap plan.dump?
    failures := files.filterMap plan.failure? }

/-- The session after files, the last of which may have broken it off. -/
def afterLast (plan : Plan) (files : List String) (name : String) : Session :=
  { after plan (files ++ [name]) with abort := (plan.pageFault? name).map Abort.ofPageFault }

/-- The session after files and the decoding of one more. -/
def afterDecoding (plan : Plan) (files : List String) (name : String) : Session :=
  { after plan files with
    log := plan.freshLog.write (files.flatMap plan.entries ++ plan.decodingEntries name)
    stderr := files.flatMap plan.told ++ plan.logged (plan.decodingEntries name) }

theorem follow_write (session : Session) {earlier : List LogEntry}
    (log_eq : session.log = plan.freshLog.write earlier) (entries : List LogEntry) :
    session.follow (session.log.write entries) =
      { session with
        log := plan.freshLog.write (earlier ++ entries)
        stderr := session.stderr ++ plan.logged entries } := by
  rw [follow, log_eq, Log.write_write, logged, Log.write, Log.write, List.filter_append,
    ← List.append_assoc, List.drop_left]

theorem addDump_afterDecoding (files : List String) {dump : Dump}
    (result_eq : plan.result name = .ok dump) :
    (afterDecoding plan files name).addDump plan files.length name dump =
      afterLast plan files name := by
  have dump_eq := dump?_of_ok result_eq
  have failure_eq := failure?_of_ok result_eq
  have fault_eq := (pageFault?_of_ok result_eq).trans (plan.fault_page files.length name dump).symm
  unfold addDump
  simp [afterDecoding, afterLast, after, entries, told, shown, failure_eq, dump_eq, fault_eq]

theorem addFailure_afterDecoding (files : List String) {fault : DumpFault}
    (result_eq : plan.result name = .error fault) :
    (afterDecoding plan files name).addFailure plan { path := name, message := fault.message } =
      afterLast plan files name := by
  let failure : Failure := { path := name, message := fault.message }
  have dump_eq := dump?_of_error result_eq
  have failure_eq : plan.failure? name = some failure := failure?_of_error result_eq
  have fault_eq : plan.pageFault? name = (plan.failurePage failure).fault :=
    pageFault?_of_error result_eq
  have entry_eq :
      (afterDecoding plan files name).log.add .debug ("Decoding " ++ name ++ " failed") =
        (afterDecoding plan files name).log.write [failedEntry failure] := by
    rw [Log.add_eq_write]
    rfl
  unfold addFailure
  simp only [complaint_eq, entry_eq, follow_write (afterDecoding plan files name) rfl]
  simp [afterDecoding, afterLast, after, entries, told, logged, shown, failure_eq, dump_eq,
    fault_eq, failure]

/-- One more file adds what it adds by itself. -/
theorem take_after (sound : plan.Sound) (apart : plan.KeepsOffLog name) (files : List String) :
    (after plan files).take plan files.length name = afterLast plan files name := by
  have decoded : plan.decode name (after plan files).log =
      (plan.result name, (after plan files).log.write (plan.decodingEntries name)) :=
    decode_eq apart (files.flatMap plan.entries)
  have followed : (after plan files).follow
      ((after plan files).log.write (plan.decodingEntries name)) = afterDecoding plan files name :=
    follow_write (after plan files) rfl (plan.decodingEntries name)
  unfold take
  rw [decoded]
  simp only [followed]
  -- The session goes one of three ways, and the limit of a sound plan rules out the third.
  cases result_eq : plan.result name with
  | ok dump => exact addDump_afterDecoding files result_eq
  | error fault =>
      have failed := addFailure_afterDecoding files result_eq
      cases fault with
      | limitNotNumber => exact absurd result_eq (sound.result_ne_limitNotNumber name)
      | unreadable | tooLarge | rejected => exact failed

theorem afterLast_of_renders (sound : plan.Sound) (renders : plan.Renders name)
    (files : List String) : afterLast plan files name = after plan (files ++ [name]) := by
  rw [afterLast, sound.pageFault?_eq_none_iff.mpr renders]
  rfl

theorem abort_afterLast (broken : ¬ plan.Renders name) (files : List String) :
    (afterLast plan files name).abort = some .marks := by
  rw [afterLast, not_not.mp broken]
  rfl

/-- What a session takes from a file that has a dump. -/
theorem take_of_dump {session : Session} (index : Nat) {name : String} {dump : Dump}
    (decoded : (plan.decode name session.log).1 = .ok dump) :
    (session.take plan index name).dumps = session.dumps ++ [dump] ∧
      (session.take plan index name).failures = session.failures ∧
      (session.take plan index name).abort =
        (plan.block name dump).fault.map Abort.ofPageFault := by
  unfold take
  rw [← plan.fault_page index]
  generalize plan.decode name session.log = result at decoded
  obtain ⟨outcome, log⟩ := result
  obtain rfl : outcome = .ok dump := decoded
  exact ⟨rfl, rfl, rfl⟩

/-! ## All files -/

theorem takeAll_cons {session : Session} (going_on : session.abort = none) (index : Nat)
    (rest : List String) :
    session.takeAll plan index (name :: rest) =
      (session.take plan index name).takeAll plan (index + 1) rest := by
  rw [takeAll, if_neg (by simp [going_on])]

/-- A session that broke off takes no more files. -/
theorem takeAll_of_abort {session : Session} {abort : Abort}
    (broken_off : session.abort = some abort) (index : Nat)
    (files : List String) : session.takeAll plan index files = session := by
  cases files with
  | nil => rfl
  | cons name rest => rw [takeAll, if_pos (by simp [broken_off])]

/-- A run over files that can be shown adds what each of them adds by itself. -/
theorem takeAll_after (sound : plan.Sound) (files front back : List String)
    (apart : ∀ name ∈ front, plan.KeepsOffLog name) (render : ∀ name ∈ front, plan.Renders name) :
    (after plan files).takeAll plan files.length (front ++ back) =
      (after plan (files ++ front)).takeAll plan (files ++ front).length back := by
  -- By induction on the files that are left: between two files the session is always one `after`
  -- those that were taken.
  induction front generalizing files with
  | nil => rw [List.nil_append, List.append_nil]
  | cons name rest induction =>
      have later := induction (files ++ [name])
        (fun found member => apart found (.tail name member))
        fun found member => render found (.tail name member)
      rw [List.cons_append, takeAll_cons rfl, take_after sound (apart name (.head _)),
        afterLast_of_renders sound (render name (.head _))]
      rw [List.length_append, List.append_assoc] at later
      exact later

theorem start_eq_after (plan : Plan) : start plan = after plan [] := by
  rw [after, List.flatMap_nil, Log.write_nil]
  rfl

/-- A run over files that can be shown adds what each of them adds by itself. -/
theorem takeAll_start (sound : plan.Sound) (files : List String)
    (apart : ∀ name ∈ files, plan.KeepsOffLog name) (render : ∀ name ∈ files, plan.Renders name) :
    (start plan).takeAll plan 0 files = after plan files := by
  have taken := takeAll_after sound [] files [] apart render
  rw [List.append_nil] at taken
  rw [start_eq_after]
  exact taken

/-- The first file that cannot be shown is the last one. -/
theorem takeAll_start_of_broken (sound : plan.Sound) {front back : List String}
    (apart : ∀ file ∈ front ++ [name], plan.KeepsOffLog file)
    (render : ∀ file ∈ front, plan.Renders file) (broken : ¬ plan.Renders name) :
    (start plan).takeAll plan 0 (front ++ name :: back) = afterLast plan front name := by
  obtain ⟨front_apart, name_apart⟩ := List.forall_mem_append.mp apart
  have taken := takeAll_after sound [] front (name :: back) front_apart render
  have last := take_after sound (name_apart name (.head _)) front
  rw [start_eq_after]
  refine taken.trans ?_
  rw [List.nil_append, takeAll_cons rfl, last, takeAll_of_abort (abort_afterLast broken front)]

end Session
end Command
end ElfInspect
