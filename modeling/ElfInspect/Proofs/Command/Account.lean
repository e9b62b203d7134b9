import ElfInspect.Proofs.Command.Session
import ElfInspect.Proofs.Display.Rendering

/-!
# What a run accounts for

Every file is either a dump or a failure.  What a run shows, tells and reports, and its exit code,
follow from the dumps and failures of its files, each taken by itself.  The first file with marks
that do not fit together breaks the run off.
-/

namespace ElfInspect

theorem mapError_eq_ok_iff {ε η α : Type} {convert : ε → η} {outcome : Except ε α} {result : α} :
    outcome.mapError convert = .ok result ↔ outcome = .ok result := by
  cases outcome <;> simp [Except.mapError]

/-- Texts are shown with their marks. -/
structure Environment.ShowsMarks (environment : Environment) : Prop where
  output : environment.output.render = Markup.render
  diagnostics : environment.diagnostics.render = Markup.render

namespace Command

namespace Plan

/-! ## Plans -/

variable {environment : Environment} {volume : Volume} {invocation : Invocation}
  {settings : Settings} {plan : Plan}

/-- A plan needs a level of the log and a log file that can be opened, and nothing else. -/
theorem make_eq_ok_iff :
    make environment volume invocation settings = .ok plan ↔
      ∃ level opened logFile,
        logLevel invocation.verbose settings.globalSettings = .ok level ∧
          openLog volume settings.globalSettings = .ok (opened, logFile) ∧
          plan =
            { invocation := invocation, settings := settings, level := level, volume := opened
              logFile := logFile, environment := environment } := by
  constructor
  · intro made
    rw [make] at made
    obtain ⟨level, level_eq, made⟩ := exists_of_bind_eq_ok made
    obtain ⟨⟨opened, logFile⟩, opened_eq, made⟩ := exists_of_bind_eq_ok made
    cases made
    exact ⟨level, opened, logFile, level_eq, opened_eq, rfl⟩
  · rintro ⟨level, opened, logFile, level_eq, opened_eq, rfl⟩
    rw [make, level_eq, opened_eq]
    rfl

end Plan

/-- A run has a plan, under settings that are numbers where numbers are needed. -/
structure Planned (environment : Environment) (volume : Volume) (invocation : Invocation)
    (plan : Plan) (limit code : Int) : Prop where
  /-- The settings can be loaded. -/
  loaded : environment.settings.load volume invocation.config = .ok plan.settings
  limit : plan.settings.dump.maxFileSize = .integer limit
  code : plan.settings.dump.warningsExitCode = .integer code
  width : ∃ width, plan.settings.dump.nameWidth = .integer width
  /-- The log has a level, and its file can be opened. -/
  made : Plan.make environment volume invocation plan.settings = .ok plan

/-- A plan is one for an invocation over files; opening its log loses none of them. -/
structure Plan.StartsFrom (plan : Plan) (environment : Environment) (volume : Volume)
    (invocation : Invocation) : Prop where
  environment : plan.environment = environment
  invocation : plan.invocation = invocation
  workingDirectory : plan.volume.workingDirectory = volume.workingDirectory
  kept : ∀ place node, volume.node? place = some node → plan.volume.node? place = some node
  /-- No other file than the log is new. -/
  added : ∀ place content, plan.volume.node? place = some (.file content) →
    volume.node? place = some (.file content) ∨ ∃ file ∈ plan.logFile, place = file.place

namespace Planned

variable {environment : Environment} {volume : Volume} {invocation : Invocation} {plan : Plan}
  {limit code : Int}

theorem invocation_eq (planned : Planned environment volume invocation plan limit code) :
    plan.invocation = invocation := by
  obtain ⟨level, opened, logFile, _, _, plan_eq⟩ := Plan.make_eq_ok_iff.mp planned.made
  rw [plan_eq]

theorem startsFrom (planned : Planned environment volume invocation plan limit code) :
    plan.StartsFrom environment volume invocation := by
  obtain ⟨level, opened, logFile, _, opening, plan_eq⟩ := Plan.make_eq_ok_iff.mp planned.made
  rw [plan_eq]
  rw [openLog] at opening
  obtain ⟨path, _, opening⟩ := exists_of_bind_eq_ok opening
  cases path with
  | none =>
      cases opening
      exact ⟨rfl, rfl, rfl, fun _ _ => id, fun _ _ => .inl⟩
  | some path =>
      obtain ⟨⟨_, file⟩, tried, opening⟩ := exists_of_bind_eq_ok opening
      cases opening
      obtain ⟨directory_eq, kept, added⟩ := LogFile.kept_of_openAt (mapError_eq_ok_iff.mp tried)
      refine ⟨rfl, rfl, directory_eq, kept, fun place content found => ?_⟩
      exact (added place content found).imp_right fun same => ⟨file, rfl, same⟩

theorem sound (planned : Planned environment volume invocation plan limit code) : plan.Sound := by
  obtain ⟨width, width_eq⟩ := planned.width
  exact
    { limit := ⟨limit, by rw [planned.limit]; rfl⟩
      width := ⟨width, by rw [width_eq]; rfl⟩ }

end Planned

namespace Plan

/-! ## What can be shown -/

section

variable {plan : Plan} (marks : plan.environment.ShowsMarks)
include marks

theorem fault_failurePage (failure : Failure) : (plan.failurePage failure).fault = none := by
  rw [← complaint_eq]
  exact Console.fault_error marks.diagnostics (Markup.selfContained_escape _)

/-- A file with a dump can be shown unless the sections inside its segments are asked for and
cannot. -/
theorem fault_block_iff (sound : plan.Sound) {name : String} {dump : Dump}
    (result_eq : plan.result name = .ok dump) :
    (plan.block name dump).fault = none ↔
      (plan.invocation.parts.programHeaders = true → Display.MappingShows dump) := by
  obtain ⟨limit, limit_eq⟩ := sound.limit
  obtain ⟨width, width_eq⟩ := sound.width
  rw [result, limit_eq] at result_eq
  obtain ⟨image, _, _, decoded⟩ := Dump.ofFile_eq_ok_iff.mp result_eq
  have title : Markup.Sealed "File: " := Markup.sealed_of_isPlain (by simp [Markup.IsPlain])
  have title_fault : (if plan.announces then
      Console.print plan.environment.output ("File: " ++ Markup.escape name) else {}).fault =
        none := by
    split
    · exact Console.fault_print marks.output
        (title.append_selfContained (Markup.selfContained_escape name))
    · rfl
  rw [block, Page.fault_append, title_fault, Option.none_or, width_eq]
  exact Display.fault_page_iff marks.output width _ (Dump.isPlain_field_of_decode decoded)

/-- The marks of what is written about a file fit together unless it has a dump, the sections
inside its segments are asked for and their names make up other marks. -/
theorem renders_iff (sound : plan.Sound) (name : String) :
    plan.Renders name ↔ ∀ dump, plan.result name = .ok dump →
      plan.invocation.parts.programHeaders = true → Display.MappingShows dump := by
  rw [← sound.pageFault?_eq_none_iff]
  cases result_eq : plan.result name with
  | ok dump =>
      rw [pageFault?_of_ok result_eq, fault_block_iff marks sound result_eq]
      constructor
      · rintro shows _ ⟨⟩
        exact shows
      · exact fun shows => shows dump rfl
  | error fault =>
      rw [pageFault?_of_error result_eq]
      refine iff_of_true (fault_failurePage marks _) ?_
      rintro _ ⟨⟩

end

/-! ## The account of a plan -/

/-- The report on the files of a plan. -/
def report (plan : Plan) : Report :=
  { time := plan.environment.time
    dumps := plan.invocation.files.filterMap plan.dump?
    failures := plan.invocation.files.filterMap plan.failure? }

/-- The content of the file of a report. -/
def reportContent (plan : Plan) : Image := ⟨("\n".intercalate plan.report.lines).toUTF8⟩

/-- The files once the log tells of the given ones. -/
def volumeBehind (plan : Plan) (files : List String) : Volume :=
  plan.volumeAfter (plan.freshLog.write (files.flatMap plan.entries))

/-- The place at which the report is written, if a path for it is given. -/
def reportPlace? (plan : Plan) : Except FileFault (Option Place) :=
  match plan.invocation.output with
  | none => .ok none
  | some name =>
      if name = "" then .ok none
      else
        ((plan.volumeBehind plan.invocation.files).write (Path.ofText name)
          plan.reportContent).map fun written => some written.2

/-- What is told of the place of the report. -/
def savedPage (plan : Plan) (place : Place) : Page :=
  Console.print plan.environment.diagnostics
    ("[dump.success]OK:[/dump.success] " ++
      Markup.escape ("JSON report saved: " ++ Volume.absolute place))

theorem savedPage_eq (plan : Plan) (place : Place) :
    plan.savedPage place =
      Console.success plan.environment.diagnostics
        (Markup.escape ("JSON report saved: " ++ Volume.absolute place)) := by
  have lead_eq :
      Markup.mark "dump.success" "OK:" ++ " " = "[dump.success]OK:[/dump.success] " := by
    decide
  rw [savedPage, Console.success, lead_eq]

theorem fault_savedPage {plan : Plan} (marks : plan.environment.ShowsMarks) (place : Place) :
    (plan.savedPage place).fault = none := by
  rw [savedPage_eq]
  exact Console.fault_success marks.diagnostics (Markup.selfContained_escape _)

theorem length_dumps_add_length_failures (plan : Plan) :
    plan.report.dumps.length + plan.report.failures.length = plan.invocation.files.length := by
  rw [report]
  generalize plan.invocation.files = files
  induction files with
  | nil => rfl
  | cons name rest induction =>
      simp only [List.filterMap_cons, List.length_cons, ← induction]
      obtain ⟨dump, dump_eq, failure_eq⟩ | ⟨message, dump_eq, failure_eq⟩ :=
        plan.dump_or_failure name
      · simp only [dump_eq, failure_eq, List.length_cons]
        omega
      · simp only [dump_eq, failure_eq, List.length_cons]
        omega

theorem shown_of_json (plan : Plan) (json : plan.invocation.json = true) (files : List String) :
    (files.mapIdx plan.shown).flatten = [] := by
  rw [List.flatten_eq_nil_iff]
  intro lines member
  obtain ⟨index, name, rfl⟩ := List.mem_mapIdx.mp member
  simp [shown, json]

end Plan

/-- What a run makes of the files of its plan, under a limit of size, an exit code for warnings and
with a place for the report, if there is one. -/
structure Accounts (plan : Plan) (limit code : Int) (place : Option Place) (outcome : Outcome) :
    Prop where
  /-- Nothing breaks the run off. -/
  completed : outcome.abort = none
  /-- A file has the dump of what is found at its path, if that is within the limit. -/
  dump_iff : ∀ name ∈ plan.invocation.files, ∀ dump, plan.dump? name = some dump ↔
    ∃ image, plan.volume.read (Path.ofText name) = .ok image ∧ image.size ≤ limit ∧
      Dump.decode image (Path.ofText name).text = .ok dump
  /-- A file is a failure if it cannot be read, is larger than the limit or is rejected. -/
  failure_iff : ∀ name ∈ plan.invocation.files, (plan.failure? name).isSome ↔
    (∃ fault, plan.volume.read (Path.ofText name) = .error fault) ∨
      ∃ image, plan.volume.read (Path.ofText name) = .ok image ∧
        (limit < image.size ∨
          ∃ rejection, Dump.decode image (Path.ofText name).text = .error rejection)
  /-- A file is a dump or a failure under its name, and not both. -/
  either : ∀ name ∈ plan.invocation.files,
    (∃ dump, plan.dump? name = some dump ∧ plan.failure? name = none) ∨
      ∃ message, plan.dump? name = none ∧
        plan.failure? name = some { path := name, message := message }
  /-- Every argument is counted once. -/
  counted :
    plan.report.dumps.length + plan.report.failures.length = plan.invocation.files.length
  /-- The report, or what is shown of each file that has a dump. -/
  stdout : outcome.stdout =
    if plan.invocation.json then plan.report.lines
    else (plan.invocation.files.mapIdx plan.shown).flatten
  /-- What is told of each file, and of the place of the report. -/
  stderr : outcome.stderr =
    plan.invocation.files.flatMap plan.told ++
      place.elim [] fun found => Diagnostic.ofPage (plan.savedPage found)
  /-- The report is found at its place. -/
  saved : ∀ found ∈ place, outcome.volume.node? found = some (.file plan.reportContent)
  failed : plan.report.failures ≠ [] → outcome.exitCode = .number 1
  warned : plan.report.failures = [] → (∃ dump ∈ plan.report.dumps, dump.markers ≠ []) →
    outcome.exitCode = .number code
  clean : plan.report.failures = [] → (∀ dump ∈ plan.report.dumps, dump.markers = []) →
    outcome.exitCode = .number 0

/-- What a run makes of files, if what is written about the last one of them breaks it off. -/
structure BreaksOff (plan : Plan) (files : List String) (outcome : Outcome) : Prop where
  abort : outcome.abort = some .marks
  exitCode : outcome.exitCode = .number 1
  /-- What is shown of each file that has a dump, of the last one up to the break. -/
  stdout : outcome.stdout = (files.mapIdx plan.shown).flatten
  stderr : outcome.stderr = files.flatMap plan.told
  /-- There is no report. -/
  volume : outcome.volume = plan.volumeBehind files

/-! ## The end of a run -/

variable {plan : Plan} {place : Option Place}

theorem writeReport_of_ne {name : String} (not_empty : name ≠ "") (screen : Screen)
    (volume : Volume) (report : Report) :
    writeReport screen volume (some name) report =
      (volume.write (Path.ofText name) ⟨("\n".intercalate report.lines).toUTF8⟩).map fun written =>
        (written.1, Console.success screen
          (Markup.escape ("JSON report saved: " ++ Volume.absolute written.2))) := by
  unfold writeReport
  split
  case h_1 absent => cases absent
  case h_2 empty => exact absurd (Option.some.inj empty) not_empty
  case h_3 given =>
    cases given
    simp only
    generalize volume.write (Path.ofText name) _ = written
    cases written <;> rfl

theorem writeReport_eq (place_eq : plan.reportPlace? = .ok place) :
    ∃ written,
      writeReport plan.environment.diagnostics (plan.volumeBehind plan.invocation.files)
          plan.invocation.output plan.report = .ok (written, place.elim {} plan.savedPage) ∧
        ∀ found ∈ place, written.node? found = some (.file plan.reportContent) := by
  rw [Plan.reportPlace?] at place_eq
  cases output_eq : plan.invocation.output with
  | none =>
      rw [output_eq] at place_eq
      cases place_eq
      exact ⟨_, rfl, nofun⟩
  | some name =>
      simp only [output_eq] at place_eq
      by_cases empty : name = ""
      · rw [if_pos empty] at place_eq
        cases place_eq
        exact ⟨_, by rw [empty]; rfl, nofun⟩
      · rw [if_neg empty] at place_eq
        rw [writeReport_of_ne empty, ← Plan.reportContent]
        simp only [← Plan.savedPage_eq]
        cases writing : (plan.volumeBehind plan.invocation.files).write (Path.ofText name)
            plan.reportContent with
        | error fault =>
            rw [writing] at place_eq
            cases place_eq
        | ok written =>
            rw [writing] at place_eq
            cases place_eq
            refine ⟨written.1, rfl, ?_⟩
            rintro _ ⟨⟩
            exact Volume.node?_of_write writing

theorem Session.hasWarnings_eq_true_iff {session : Session} :
    session.hasWarnings = true ↔ ∃ dump ∈ session.dumps, dump.markers ≠ [] := by
  simp [Session.hasWarnings, Dump.hasWarnings]

/-- Failures come before warnings, and an exit code that is a number is shown in no other way. -/
theorem Session.exitStatus_eq (session : Session) {settings : DumpSettings} {code : Int}
    (code_eq : settings.warningsExitCode = .integer code) :
    session.exitStatus settings =
      (.number
        (if session.failures ≠ [] then 1
        else if ∃ dump ∈ session.dumps, dump.markers ≠ [] then code
        else 0), []) := by
  rw [Session.exitStatus, code_eq]
  simp only [← Session.hasWarnings_eq_true_iff]
  cases session.failures with
  | nil => cases session.hasWarnings <;> rfl
  | cons failure rest => rfl

theorem finish_after {code : Int}
    (code_eq : plan.settings.dump.warningsExitCode = .integer code)
    (place_eq : plan.reportPlace? = .ok place)
    (told : ∀ found ∈ place, (plan.savedPage found).fault = none) :
    ∃ written,
      finish plan (Session.after plan plan.invocation.files) =
          { exitCode := .number
              (if plan.report.failures ≠ [] then 1
              else if ∃ dump ∈ plan.report.dumps, dump.markers ≠ [] then code
              else 0)
            stdout := (plan.invocation.files.mapIdx plan.shown).flatten ++
              if plan.invocation.json then plan.report.lines else []
            stderr := plan.invocation.files.flatMap plan.told ++
              place.elim [] fun found => Diagnostic.ofPage (plan.savedPage found)
            volume := written } ∧
        ∀ found ∈ place, written.node? found = some (.file plan.reportContent) := by
  let session := Session.after plan plan.invocation.files
  obtain ⟨written, written_eq, saved⟩ := writeReport_eq place_eq
  refine ⟨written, ?_, saved⟩
  have report_eq : session.report plan.environment.time = plan.report := rfl
  have volume_eq : plan.volumeAfter session.log = plan.volumeBehind plan.invocation.files := rfl
  have fault_eq : (place.elim {} plan.savedPage).fault = none := by
    cases place with
    | none => rfl
    | some found => exact told found rfl
  have page_eq : Diagnostic.ofPage (place.elim {} plan.savedPage) =
      place.elim [] fun found => Diagnostic.ofPage (plan.savedPage found) := by
    cases place <;> rfl
  change close plan session = _
  unfold close
  simp only [report_eq, volume_eq, written_eq, fault_eq, page_eq, session.exitStatus_eq code_eq,
    List.append_nil]
  rfl

theorem breaksOff_finish {name : String} (broken : ¬ plan.Renders name) (front : List String) :
    BreaksOff plan (front ++ [name]) (finish plan (Session.afterLast plan front name)) := by
  rw [finish, Session.abort_afterLast broken]
  exact
    { abort := rfl
      exitCode := rfl
      stdout := rfl
      stderr := rfl
      volume := rfl }

theorem accounts_finish {limit code : Int}
    (limit_eq : plan.settings.dump.maxFileSize = .integer limit)
    (code_eq : plan.settings.dump.warningsExitCode = .integer code)
    (place_eq : plan.reportPlace? = .ok place)
    (told : ∀ found ∈ place, (plan.savedPage found).fault = none) :
    Accounts plan limit code place (finish plan (Session.after plan plan.invocation.files)) := by
  obtain ⟨written, finish_eq, saved⟩ := finish_after code_eq place_eq told
  have result_eq (name : String) :
      plan.result name = Dump.ofFile plan.volume (some limit) name := by
    rw [Plan.result, limit_eq]
    rfl
  rw [finish_eq]
  refine
    { completed := rfl
      dump_iff := ?dump_iff
      failure_iff := ?failure_iff
      either := fun name _ => plan.dump_or_failure name
      counted := plan.length_dumps_add_length_failures
      stdout := ?stdout
      stderr := rfl
      saved := saved
      failed := ?failed
      warned := ?warned
      clean := ?clean }
  case dump_iff =>
    intro name _ dump
    rw [← Dump.ofFile_eq_ok_iff, ← result_eq, Plan.dump?]
    cases plan.result name <;> simp [Except.toOption]
  case failure_iff =>
    intro name _
    rw [← Dump.exists_ofFile_eq_error_iff, ← result_eq, Plan.failure?]
    cases plan.result name <;> simp [Plan.failureOf]
  case stdout =>
    cases json : plan.invocation.json with
    | false => simp
    | true => simp [plan.shown_of_json json]
  case failed =>
    intro failed
    simp only [if_pos failed]
  case warned =>
    intro none_failed warned
    simp only [none_failed, ne_eq, not_true_eq_false, if_false, if_pos warned]
  case clean =>
    intro none_failed clean
    have none_warned : ¬ ∃ dump ∈ plan.report.dumps, dump.markers ≠ [] := by simpa using clean
    simp only [none_failed, ne_eq, not_true_eq_false, if_false, if_neg none_warned]

/-- A run that is not broken off has a session that is not. -/
theorem abort_eq_none_of_finish {session : Session}
    (completed : (finish plan session).abort = none) : session.abort = none := by
  rw [finish] at completed
  cases abort_eq : session.abort with
  | none => rfl
  | some abort =>
      rw [abort_eq] at completed
      cases completed

theorem exitCode_finish {session : Session} (going_on : session.abort = none)
    (no_output : plan.invocation.output = none) :
    (finish plan session).exitCode = (session.exitStatus plan.settings.dump).1 := by
  rw [finish, going_on]
  simp only
  unfold close
  rw [no_output]
  rfl

end Command
end ElfInspect
