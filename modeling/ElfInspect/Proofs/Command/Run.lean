import Mathlib
import ElfInspect.Proofs.Command.Account
import ElfInspect.Proofs.Files.SettingsFile

/-!
# Runs of the command

A run whose settings can be loaded accounts for its files, provided that none of them belongs to its
log and that the marks of what it writes fit together.  The first file for which they do not breaks
the run off.  Without settings no file is taken.
-/

namespace ElfInspect

namespace Command

variable {environment : Environment} {volume : Volume} {words : List String}
  {invocation : Invocation} {plan : Plan} {limit code : Int}

theorem run_eq_of_accepted (asked : Request.ofWords words = .run invocation)
    (accepted : ∀ name ∈ invocation.files, refusal? volume name = none) :
    run environment volume words =
      match environment.settings.load volume invocation.config with
      | .ok settings => perform environment volume invocation settings
      | .error fault => unloaded environment volume fault := by
  have unrefused : invocation.files.findSome? (refusal? volume) = none :=
    List.findSome?_eq_none_iff.mpr accepted
  cases loaded : environment.settings.load volume invocation.config with
  | ok settings => simp only [run, asked, invoke, unrefused, loaded]
  | error fault => simp only [run, asked, invoke, unrefused, loaded]

theorem unloaded_spec (environment : Environment) (volume : Volume) (fault : SettingsFileFault) :
    (unloaded environment volume fault).exitCode = .number 1 ∧
      (unloaded environment volume fault).stdout = [] ∧
      (unloaded environment volume fault).volume = volume := by
  cases fault with
  | missing | unreadable | notText => exact ⟨rfl, rfl, rfl⟩
  | document path fault =>
      cases fault with
      | groupNotTable => exact ⟨rfl, rfl, rfl⟩
      | document flaw => cases flaw <;> exact ⟨rfl, rfl, rfl⟩

/-- A run that has a plan carries it out. -/
theorem Planned.run_eq (planned : Planned environment volume invocation plan limit code)
    (asked : Request.ofWords words = .run invocation)
    (accepted : ∀ name ∈ invocation.files, refusal? volume name = none) :
    run environment volume words =
      finish plan ((Session.start plan).takeAll plan 0 invocation.files) := by
  rw [run_eq_of_accepted asked accepted, planned.loaded]
  simp only [perform, planned.made]

theorem Planned.accounts_run (planned : Planned environment volume invocation plan limit code)
    (asked : Request.ofWords words = .run invocation)
    (accepted : ∀ name ∈ invocation.files, refusal? volume name = none)
    (apart : ∀ name ∈ invocation.files, plan.KeepsOffLog name)
    (render : ∀ name ∈ invocation.files, plan.Renders name) {place : Option Place}
    (place_eq : plan.reportPlace? = .ok place)
    (told : ∀ found ∈ place, (plan.savedPage found).fault = none) :
    Accounts plan limit code place (run environment volume words) := by
  rw [planned.run_eq asked accepted, Session.takeAll_start planned.sound _ apart render,
    ← planned.invocation_eq]
  exact accounts_finish planned.limit planned.code place_eq told

theorem Planned.breaksOff_run (planned : Planned environment volume invocation plan limit code)
    (asked : Request.ofWords words = .run invocation)
    (accepted : ∀ name ∈ invocation.files, refusal? volume name = none)
    (apart : ∀ name ∈ invocation.files, plan.KeepsOffLog name) {front back : List String}
    {name : String} (files_eq : invocation.files = front ++ name :: back)
    (render : ∀ file ∈ front, plan.Renders file) (broken : ¬ plan.Renders name) :
    BreaksOff plan (front ++ [name]) (run environment volume words) := by
  have included : front ++ [name] ⊆ front ++ name :: back := by simp
  rw [files_eq] at apart
  rw [planned.run_eq asked accepted, files_eq,
    Session.takeAll_start_of_broken planned.sound (fun file member => apart file (included member))
      render broken]
  exact breaksOff_finish broken front

/-- A request for information is not one for a run. -/
theorem ofArgument?_ne_run (argument : Argument) :
    Request.ofArgument? argument ≠ some (.run invocation) := by
  unfold Request.ofArgument?
  split <;> simp

/-- A run has a file. -/
theorem files_ne_nil_of_ofWords (asked : Request.ofWords words = .run invocation) :
    invocation.files ≠ [] := by
  rw [Request.ofWords] at asked
  split at asked
  case h_1 => cases asked
  case h_2 arguments _ =>
    rw [Request.ofArguments] at asked
    split at asked
    case h_1 request found =>
      obtain ⟨argument, _, request_eq⟩ := List.exists_of_findSome?_eq_some found
      rw [asked] at request_eq
      exact absurd request_eq (ofArgument?_ne_run argument)
    case h_2 =>
      simp only at asked
      split at asked
      case h_1 => cases asked
      case h_2 =>
        split at asked
        case isTrue => cases asked
        case isFalse filled =>
          cases asked
          simpa using filled

/-- A run takes every file once, in order and by itself, as long as what it writes about them can be
shown; the first file for which it cannot be shown is the last one taken.  Only the names of
sections side by side in one segment cannot always be shown.  If the settings cannot be loaded, no
file is taken.  For this the settings have to be numbers where numbers are needed, the log has to
have a level, the log and the report have to go somewhere, and no path may lead to the log. -/
theorem run_accounts_for_files (asked : Request.ofWords words = .run invocation)
    (accepted : ∀ name ∈ invocation.files, refusal? volume name = none) :
    invocation.files ≠ [] ∧
      (∀ fault, environment.settings.load volume invocation.config = .error fault →
        (run environment volume words).exitCode = .number 1 ∧
          (run environment volume words).stdout = [] ∧
          (run environment volume words).volume = volume ∧
          ∀ otherWords other, Request.ofWords otherWords = .run other →
            other.config = invocation.config →
            (∀ name ∈ other.files, refusal? volume name = none) →
            run environment volume otherWords = run environment volume words) ∧
      ∀ plan limit code, Planned environment volume invocation plan limit code →
        plan.StartsFrom environment volume invocation ∧
          (environment.ShowsMarks →
            (∀ name, plan.Renders name ↔ ∀ dump, plan.result name = .ok dump →
              invocation.parts.programHeaders = true → Display.MappingShows dump) ∧
            ∀ found, (plan.savedPage found).fault = none) ∧
          ((∀ name ∈ invocation.files, plan.KeepsOffLog name) →
            (∀ place, (∀ name ∈ invocation.files, plan.Renders name) →
              plan.reportPlace? = .ok place →
              (∀ found ∈ place, (plan.savedPage found).fault = none) →
              Accounts plan limit code place (run environment volume words)) ∧
            ∀ front name back, invocation.files = front ++ name :: back →
              (∀ file ∈ front, plan.Renders file) → ¬ plan.Renders name →
              BreaksOff plan (front ++ [name]) (run environment volume words)) := by
  refine ⟨files_ne_nil_of_ofWords asked, ?unconfigured, ?configured⟩
  case unconfigured =>
    intro fault unconfigured
    have run_eq : run environment volume words = unloaded environment volume fault := by
      rw [run_eq_of_accepted asked accepted, unconfigured]
    have ⟨exit_eq, stdout_eq, volume_eq⟩ := unloaded_spec environment volume fault
    refine ⟨by rw [run_eq, exit_eq], by rw [run_eq, stdout_eq], by rw [run_eq, volume_eq], ?_⟩
    intro otherWords other other_asked same_config other_accepted
    rw [run_eq, run_eq_of_accepted other_asked other_accepted, same_config, unconfigured]
  case configured =>
    intro plan limit code planned
    have starts := planned.startsFrom
    refine ⟨starts, ?shown, fun apart => ⟨?accounts, ?breaks_off⟩⟩
    case shown =>
      intro marks
      rw [← starts.environment] at marks
      rw [← starts.invocation]
      exact ⟨Plan.renders_iff marks planned.sound, Plan.fault_savedPage marks⟩
    case accounts =>
      intro place render place_eq told
      exact planned.accounts_run asked accepted apart render place_eq told
    case breaks_off =>
      intro front name back files_eq render broken
      exact planned.breaksOff_run asked accepted apart files_eq render broken

/-! ## Where the account holds -/

/-- What shows the texts of the samples. -/
def sampleScreen : Screen := { width := 80, render := Markup.render }

/-- The surroundings of the samples. -/
def sampleEnvironment : Environment :=
  { time := "now"
    output := sampleScreen
    diagnostics := sampleScreen
    settings := { read := Toml.parse, default := { root := "", parts := ["d"] } }
    entryText := fun _ _ entry => entry.message }

/-- A file header of 32 bits alone, behind which as many program headers should follow. -/
def bareHeader (count : Nat) : Image :=
  Image.ofList
    (([0x7F, 0x45, 0x4C, 0x46, 1, 1, 1, 0, 0, 0, 0, 0, 0, 0, 0, 0] : List UInt8) ++
      (FileHeader.struct .bits32).encode .little fun
        | .programHeaderOffset => 52
        | .programHeaderEntrySize => 32
        | .programHeaderCount => count
        | _ => 0)

/-- Settings that name the log file `x`. -/
def sampleDocument : String := "[global]\nlog_file = \"x\"\n"

/-- A directory with settings `c`, a whole file `b` and a file `x` that ends before its table. -/
def sampleVolume : Volume :=
  { workingDirectory := ["w"]
    directories := [["w"]]
    files :=
      [(["w", "c"], ⟨sampleDocument.toUTF8⟩), (["w", "b"], bareHeader 0),
        (["w", "x"], bareHeader 1)] }

/-- The settings of that directory. -/
def sampleSettings : Settings := { globalSettings := { logFile := .text "x" } }

/-- The invocation that shows the dynamic tables of files and logs everything. -/
def sampleInvocation (files : List String) : Invocation :=
  { files := files, parts := { dynamic := true }, config := some "c", verbose := true }

/-- The command line of that invocation. -/
def sampleWords (files : List String) : List String := ["-c", "c", "-v", "-D"] ++ files

/-- The files once the log file is open. -/
def sampleOpened : Volume := sampleVolume.putFile ["w", "x"] (bareHeader 1)

/-- The plan of that invocation. -/
def samplePlan (files : List String) : Plan :=
  { invocation := sampleInvocation files
    settings := sampleSettings
    level := Severity.debug.level
    volume := sampleOpened
    logFile := some { place := ["w", "x"], isJson := false }
    environment := sampleEnvironment }

-- Taking a text apart does not compute in the kernel, so the paths are rewritten before anything
-- else is decided.
theorem ofText_b : Path.ofText "b" = { root := "", parts := ["b"] } := by cbv

theorem ofText_c : Path.ofText "c" = { root := "", parts := ["c"] } := by cbv

theorem ofText_x : Path.ofText "x" = { root := "", parts := ["x"] } := by cbv

theorem load_sample :
    sampleEnvironment.settings.load sampleVolume (some "c") = .ok sampleSettings := by
  have holds : sampleEnvironment.settings.Holds sampleVolume { root := "", parts := ["c"] }
      [("global", .record [("log_file", .text "x")])] := ⟨sampleDocument, rfl, by cbv⟩
  rw [← ofText_c] at holds
  exact SettingsSource.ofFile_of_holds holds

theorem planned_sample (files : List String) :
    Planned sampleEnvironment sampleVolume (sampleInvocation files) (samplePlan files) 268435456
      2 := by
  have path_eq : logPath sampleSettings.globalSettings =
      .ok (some { root := "", parts := ["x"] }) := by
    rw [← ofText_x]
    rfl
  have opened : openLog sampleVolume sampleSettings.globalSettings =
      .ok (sampleOpened, some { place := ["w", "x"], isJson := false }) := by
    rw [openLog, path_eq]
    rfl
  exact
    { loaded := load_sample
      limit := rfl
      code := rfl
      width := ⟨_, rfl⟩
      made := Plan.make_eq_ok_iff.mpr ⟨_, _, _, rfl, opened, rfl⟩ }

theorem asked_both :
    Request.ofWords (sampleWords ["b", "x"]) = .run (sampleInvocation ["b", "x"]) := rfl

theorem accepted_sample : ∀ name ∈ ["b", "x"], refusal? sampleVolume name = none := by
  simp only [List.forall_mem_cons, ← Option.isNone_iff_eq_none, refusal?, Volume.isDirectory,
    ofText_b, ofText_x]
  decide

/-- A name that does not start with that of the log file belongs to no part of it. -/
theorem keepsOffLog_sample (files : List String) {name : String} (name_ne : name ≠ "..")
    (path_eq : Path.ofText name = { root := "", parts := [name] })
    (other : ∀ suffix, "x" ++ suffix ≠ name) : (samplePlan files).KeepsOffLog name := by
  rintro file ⟨⟩ place member leads
  obtain ⟨suffix, rfl⟩ := LogFile.exists_of_mem_slots (List.cons_ne_nil _ _) member
  rw [path_eq] at leads
  obtain same | same : ["w", "x" ++ suffix] = ["w"] ∨ ["w", "x" ++ suffix] = ["w", name] :=
    leads.place_eq name_ne
  · simp at same
  · exact other suffix (by simpa using same)

/-- What is evaluated of the dump of a file by its path. -/
theorem exists_ofFile_eq_ok {volume : Volume} {limit : Int} {name : String} {path : Path}
    {check : Dump → Bool} (path_eq : Path.ofText name = path)
    (evaluated : ((Dump.readFile volume (some limit) path).toOption.bind fun image =>
      (Dump.decode image path.text).toOption.map check) = some true) :
    ∃ dump, Dump.ofFile volume (some limit) name = .ok dump ∧ check dump = true := by
  rw [Dump.ofFile_eq, path_eq]
  cases read : Dump.readFile volume (some limit) path with
  | error fault => simp [read, Except.toOption] at evaluated
  | ok image =>
      simp only [read, Except.toOption, Option.bind_some] at evaluated
      simp only [bind, Except.bind]
      cases decoded : Dump.decode image path.text with
      | error rejection => simp [decoded] at evaluated
      | ok dump =>
          refine ⟨dump, rfl, ?_⟩
          simpa [decoded] using evaluated

theorem exists_result_b (files : List String) :
    ∃ dump, (samplePlan files).result "b" = .ok dump ∧ (!dump.hasWarnings) = true := by
  have found : ∃ dump, Dump.ofFile sampleOpened (some 268435456) "b" = .ok dump ∧
      (!dump.hasWarnings) = true := exists_ofFile_eq_ok ofText_b (by decide +kernel)
  exact found

theorem showsMarks_sample : sampleEnvironment.ShowsMarks := ⟨rfl, rfl⟩

theorem renders_sample (files : List String) (name : String) : (samplePlan files).Renders name := by
  rw [Plan.renders_iff showsMarks_sample (planned_sample files).sound]
  exact fun _ _ => nofun

theorem keepsOffLog_b (files : List String) : (samplePlan files).KeepsOffLog "b" := by
  refine keepsOffLog_sample files (by decide) ofText_b fun suffix same => ?_
  simpa using congrArg String.toList same

/-- A run over the file `b` accounts for it. -/
theorem run_accounts_for_b :
    (∀ name ∈ ["b"], refusal? sampleVolume name = none) ∧
      Planned sampleEnvironment sampleVolume (sampleInvocation ["b"]) (samplePlan ["b"]) 268435456
        2 ∧
      (∀ name ∈ ["b"], (samplePlan ["b"]).KeepsOffLog name) ∧
      (∀ name ∈ ["b"], (samplePlan ["b"]).Renders name) ∧
      Accounts (samplePlan ["b"]) 268435456 2 none
        (run sampleEnvironment sampleVolume (sampleWords ["b"])) := by
  have asked : Request.ofWords (sampleWords ["b"]) = .run (sampleInvocation ["b"]) := rfl
  have accepted : ∀ name ∈ ["b"], refusal? sampleVolume name = none := by
    simpa using accepted_sample "b" (.head _)
  have apart : ∀ name ∈ ["b"], (samplePlan ["b"]).KeepsOffLog name := by
    simpa using keepsOffLog_b ["b"]
  have render : ∀ name ∈ ["b"], (samplePlan ["b"]).Renders name := by
    simpa using renders_sample ["b"] "b"
  have planned := planned_sample ["b"]
  refine ⟨accepted, planned, apart, render, ?_⟩
  have accounted := (run_accounts_for_files asked accepted).2.2 _ _ _ planned
  exact (accounted.2.2 apart).1 none render rfl nofun

/-! ## Where it does not hold -/

/-- A whole file with the sections `[/a` and `b]` inside its only segment. -/
def markedImage : Image :=
  -- Given as an array, since filling one byte by byte takes the kernel long.
  { bytes := .mk
      (([0x7F, 0x45, 0x4C, 0x46, 1, 1, 1, 0, 0, 0, 0, 0, 0, 0, 0, 0] : List UInt8) ++
        ((FileHeader.struct .bits32).encode .little fun
          | .programHeaderOffset => 52
          | .programHeaderEntrySize => 32
          | .programHeaderCount => 1
          | .sectionHeaderOffset => 84
          | .sectionHeaderEntrySize => 40
          | .sectionHeaderCount => 3
          | .sectionNameStringTableIndex => 2
          | _ => 0) ++
        ((Segment.struct .bits32).encode .little fun
          | .segmentType => 1
          | .fileSize => 212
          | .memorySize => 212
          | _ => 0) ++
        ((Section.struct .bits32).encode .little fun _ => 0) ++
        ((Section.struct .bits32).encode .little fun
          | .nameOffset => 1
          | .sectionType => 1
          | .flags => 2
          | .address => 204
          | .fileOffset => 204
          | .size => 8
          | _ => 0) ++
        ((Section.struct .bits32).encode .little fun
          | .nameOffset => 5
          | .sectionType => 3
          | .flags => 2
          | .address => 204
          | .fileOffset => 204
          | .size => 8
          | _ => 0) ++
        [0x00, 0x5B, 0x2F, 0x61, 0x00, 0x62, 0x5D, 0x00]).toArray }

/-- A directory with that file alone. -/
def markedVolume : Volume :=
  { workingDirectory := ["w"]
    directories := [["w"]]
    files := [(["w", "f"], markedImage)] }

/-- The invocation that shows the segments of that file. -/
def markedInvocation : Invocation := { files := ["f"], parts := { programHeaders := true } }

/-- The plan of that invocation. -/
def markedPlan : Plan :=
  { invocation := markedInvocation
    settings := {}
    level := Severity.warning.level
    volume := markedVolume
    logFile := none
    environment := sampleEnvironment }

theorem ofText_f : Path.ofText "f" = { root := "", parts := ["f"] } := by cbv

theorem planned_marked :
    Planned sampleEnvironment markedVolume markedInvocation markedPlan 268435456 2 :=
  { loaded := rfl
    limit := rfl
    code := rfl
    width := ⟨_, rfl⟩
    made := Plan.make_eq_ok_iff.mpr ⟨_, _, _, rfl, rfl, rfl⟩ }

theorem render_split : Markup.render "[/a b]" = none := by cbv

theorem exists_result_marked :
    ∃ dump, markedPlan.result "f" = .ok dump ∧
      (!dump.segments.isEmpty && dump.segmentSections.any fun members =>
        Display.memberNames dump.sections.toArray members == "[/a b]") = true :=
  exists_ofFile_eq_ok ofText_f (by decide +kernel)

/-- The names `[/a` and `b]` side by side make up a mark. -/
theorem not_renders_marked : ¬ markedPlan.Renders "f" := by
  obtain ⟨dump, result_eq, checked⟩ := exists_result_marked
  obtain ⟨segments, joined⟩ := Bool.and_eq_true_iff.mp checked
  obtain ⟨members, member, names_eq⟩ := List.any_eq_true.mp joined
  have filled : dump.segments ≠ [] := by simpa using segments
  rw [Plan.renders_iff showsMarks_sample planned_marked.sound]
  intro shows
  have is_some := (Display.mappingShows_iff filled).mp (shows dump result_eq rfl) members member
  rw [beq_iff_eq.mp names_eq, render_split] at is_some
  contradiction

theorem asked_marked : Request.ofWords ["-l", "f"] = .run markedInvocation := rfl

theorem accepted_marked : ∀ name ∈ ["f"], refusal? markedVolume name = none := by
  rw [List.forall_mem_singleton, refusal?, Volume.isDirectory, ofText_f]
  rfl

/-- There is no account where the names of sections make up a mark that closes nothing. -/
theorem not_accounts_with_split_mark :
    Request.ofWords ["-l", "f"] = .run markedInvocation ∧
      (∀ name ∈ ["f"], refusal? markedVolume name = none) ∧
      Planned sampleEnvironment markedVolume markedInvocation markedPlan 268435456 2 ∧
      (∀ name ∈ ["f"], markedPlan.KeepsOffLog name) ∧
      markedPlan.reportPlace? = .ok none ∧
      ¬ Accounts markedPlan 268435456 2 none
        (run sampleEnvironment markedVolume ["-l", "f"]) := by
  have apart : ∀ name ∈ ["f"], markedPlan.KeepsOffLog name := fun name _ => nofun
  refine ⟨asked_marked, accepted_marked, planned_marked, apart, rfl, fun accounts => ?_⟩
  have files_eq : markedInvocation.files = [] ++ "f" :: [] := rfl
  have broken := planned_marked.breaksOff_run asked_marked accepted_marked apart files_eq nofun
    not_renders_marked
  exact absurd (broken.abort.symm.trans accounts.completed) nofun

/-- The entries about the file `b`. -/
def sampleEntries : List LogEntry :=
  Dump.fileEntries { root := "", parts := ["b"] } (samplePlan []).freshLog
    (Dump.readFile sampleOpened (some 268435456) { root := "", parts := ["b"] })

/-- The files at the turn of the file `x` behind the file `b`. -/
def sampleGrown : Volume :=
  (samplePlan []).volumeAfter ((samplePlan []).freshLog.write sampleEntries)

theorem exists_result_x (files : List String) :
    ∃ dump, (samplePlan files).result "x" = .ok dump ∧ dump.hasWarnings = true := by
  have found : ∃ dump, Dump.ofFile sampleOpened (some 268435456) "x" = .ok dump ∧
      dump.hasWarnings = true := exists_ofFile_eq_ok ofText_x (by decide +kernel)
  exact found

theorem exists_grown_x :
    ∃ dump, Dump.ofFile sampleGrown (some 268435456) "x" = .ok dump ∧
      (!dump.hasWarnings) = true :=
  exists_ofFile_eq_ok ofText_x (by decide +kernel)

theorem log_after_b (files : List String) :
    (Session.after (samplePlan files) ["b"]).log =
      (samplePlan files).freshLog.write sampleEntries := by
  obtain ⟨dump, dump_eq, _⟩ := exists_result_b files
  have entries_eq : (samplePlan files).entries "b" = sampleEntries := by
    rw [Plan.entries, Plan.failure?_of_ok dump_eq, Plan.decodingEntries, ofText_b]
    exact List.append_nil _
  rw [Session.after, List.flatMap_singleton, entries_eq]

/-- A file that is also the log file has grown when its turn comes, so that its damage is missed. -/
theorem exitCode_with_log_file
    (completed : (run sampleEnvironment sampleVolume (sampleWords ["b", "x"])).abort = none) :
    (run sampleEnvironment sampleVolume (sampleWords ["b", "x"])).exitCode = .number 0 := by
  let plan := samplePlan ["b", "x"]
  have planned := planned_sample ["b", "x"]
  obtain ⟨first, first_eq, first_whole⟩ := exists_result_b ["b", "x"]
  obtain ⟨second, second_eq, second_whole⟩ := exists_grown_x
  have decoded : (plan.decode "x" (Session.after plan ["b"]).log).1 = .ok second := by
    rw [log_after_b, Plan.decode, Dump.decodeFile_eq]
    exact second_eq
  -- The account of the first file is all that can be used: the second is read from what the log has
  -- made of it.
  let session := (Session.after plan ["b"]).take plan 1 "x"
  obtain ⟨dumps_eq, failures_eq, _⟩ := Session.take_of_dump 1 decoded
  have taken : (Session.start plan).takeAll plan 0 ["b", "x"] = session := by
    have first_taken : (Session.after plan []).take plan 0 "b" = Session.after plan ["b"] :=
      (Session.take_after planned.sound (keepsOffLog_b _) []).trans
        (Session.afterLast_of_renders planned.sound (renders_sample _ _) [])
    rw [Session.start_eq_after, Session.takeAll_cons rfl, first_taken, Session.takeAll_cons rfl,
      Session.takeAll]
  have dumps_eq : session.dumps = [first, second] := by
    rw [dumps_eq, Session.after, List.filterMap_cons_some (Plan.dump?_of_ok first_eq)]
    rfl
  have failures_eq : session.failures = [] := by
    rw [failures_eq, Session.after, List.filterMap_cons_none (Plan.failure?_of_ok first_eq)]
    rfl
  have run_eq : run sampleEnvironment sampleVolume (sampleWords ["b", "x"]) =
      finish plan session := by
    rw [planned.run_eq asked_both accepted_sample]
    exact congrArg (finish plan) taken
  rw [run_eq] at completed ⊢
  rw [exitCode_finish (abort_eq_none_of_finish completed) rfl, Session.exitStatus, failures_eq,
    Session.hasWarnings, dumps_eq]
  simp_all

/-- There is no account where the log file is among the files either: the dump of `x` by itself has
warnings, and the run tells of none. -/
theorem not_accounts_with_log_file :
    ¬ Accounts (samplePlan ["b", "x"]) 268435456 2 none
      (run sampleEnvironment sampleVolume (sampleWords ["b", "x"])) := by
  intro accounts
  obtain ⟨first, first_eq, _⟩ := exists_result_b ["b", "x"]
  obtain ⟨second, second_eq, second_warned⟩ := exists_result_x ["b", "x"]
  have failures_eq : (samplePlan ["b", "x"]).report.failures = [] := by
    change ["b", "x"].filterMap (samplePlan ["b", "x"]).failure? = []
    simp [Plan.failure?_of_ok first_eq, Plan.failure?_of_ok second_eq]
  have dumps_eq : (samplePlan ["b", "x"]).report.dumps = [first, second] := by
    change ["b", "x"].filterMap (samplePlan ["b", "x"]).dump? = _
    simp [Plan.dump?_of_ok first_eq, Plan.dump?_of_ok second_eq]
  have warned : ∃ dump ∈ (samplePlan ["b", "x"]).report.dumps, dump.markers ≠ [] := by
    refine ⟨second, by simp [dumps_eq], ?_⟩
    simpa [Dump.hasWarnings] using second_warned
  have exit_eq := accounts.warned failures_eq warned
  rw [exitCode_with_log_file accounts.completed] at exit_eq
  cases exit_eq

end Command
end ElfInspect
