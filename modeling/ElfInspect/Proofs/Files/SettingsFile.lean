import Mathlib
import ElfInspect.Files.SettingsFile
import ElfInspect.Proofs.Settings

/-!
# Settings that are asked for again and again

A request that names a file gets what the file says now, whatever was asked before.  One that names
none gets what the last successful request got, or what the default file says.
-/

namespace ElfInspect

namespace SettingsSource

/-- The file at a path holds a document with these entries. -/
def Holds (source : SettingsSource) (volume : Volume) (path : Path) (entries : Toml.Entries) :
    Prop :=
  ∃ document : String, volume.find path = .ok (.file ⟨document.toUTF8⟩) ∧
    source.read document = .ok entries

/-- There is nothing at a path. -/
def Absent (volume : Volume) (path : Path) : Prop :=
  ∃ fault, volume.find path = .error fault ∧ ∀ name, fault ≠ .tooLong name

/-- No document has a name twice in one table. -/
def NamesOnce (source : SettingsSource) : Prop :=
  ∀ document entries, source.read document = .ok entries → (Value.record entries).WellNamed

variable {source : SettingsSource} {volume : Volume} {path : Path} {entries : Toml.Entries}

/-! ## Texts of files -/

theorem readText_of_find {document : String}
    (find_eq : volume.find path = .ok (.file ⟨document.toUTF8⟩)) :
    Settings.readText volume path = .ok document := by
  have valid : document.toUTF8.IsValidUTF8 := document.isValidUTF8
  have text_eq : String.fromUTF8? document.toUTF8 = some document := dif_pos valid
  rw [Settings.readText, find_eq]
  simp only [text_eq]

theorem find_of_readText {document : String}
    (read_eq : Settings.readText volume path = .ok document) :
    volume.find path = .ok (.file ⟨document.toUTF8⟩) := by
  rw [Settings.readText] at read_eq
  split at read_eq
  case h_1 => contradiction
  case h_2 => contradiction
  case h_3 => contradiction
  case h_4 content find_eq =>
    split at read_eq
    case h_1 => contradiction
    case h_2 text text_eq =>
      rw [String.fromUTF8?, Option.dite_none_right_eq_some] at text_eq
      obtain ⟨valid, text_eq⟩ := text_eq
      rw [find_eq, ← Except.ok.inj read_eq, ← Option.some.inj text_eq]
      rfl

theorem readText_of_absent (absent : Absent volume path) :
    Settings.readText volume path = .error (.missing path.text) := by
  obtain ⟨fault, find_eq, not_tooLong⟩ := absent
  rw [Settings.readText, find_eq]
  cases fault with
  | tooLong name => exact absurd rfl (not_tooLong name)
  | _ => rfl

theorem absent_of_readText {name : String}
    (read_eq : Settings.readText volume path = .error (.missing name)) : Absent volume path := by
  rw [Settings.readText] at read_eq
  split at read_eq
  case h_1 => cases read_eq
  case h_2 fault not_tooLong find_eq => exact ⟨fault, find_eq, not_tooLong⟩
  case h_3 => cases read_eq
  case h_4 => split at read_eq <;> cases read_eq

/-! ## Settings of files -/

theorem ofFile_of_holds (holds : source.Holds volume path entries) :
    source.ofFile volume path = (Settings.ofEntries entries).mapError (.document path.text) := by
  obtain ⟨document, find_eq, read_eq⟩ := holds
  rw [ofFile, readText_of_find find_eq]
  simp only [bind, Except.bind, parse, read_eq]

theorem Holds.wellNamed (holds : source.Holds volume path entries) (once : source.NamesOnce) :
    (Value.record entries).WellNamed := by
  obtain ⟨document, _, read_eq⟩ := holds
  exact once document entries read_eq

theorem exists_ofFile_of_holds (once : source.NamesOnce)
    (holds : source.Holds volume path entries) (tables : Settings.HasTables entries) :
    ∃ settings, source.ofFile volume path = .ok settings ∧ settings.Overlays entries := by
  obtain ⟨settings, entries_eq, overlays⟩ := Settings.exists_ofEntries (holds.wellNamed once) tables
  refine ⟨settings, ?_, overlays⟩
  rw [ofFile_of_holds holds, entries_eq]
  rfl

theorem exists_fault_of_holds (once : source.NamesOnce) (holds : source.Holds volume path entries)
    (not_tables : ¬Settings.HasTables entries) : ∃ name ∈ ["global", "dump"],
      source.ofFile volume path = .error (.document path.text (.groupNotTable name)) := by
  obtain ⟨name, member, entries_eq⟩ :=
    Settings.exists_fault_of_not_hasTables (holds.wellNamed once) not_tables
  refine ⟨name, member, ?_⟩
  rw [ofFile_of_holds holds, entries_eq]
  rfl

theorem ofFile_of_flaw {document : String} {flaw : Toml.Flaw}
    (find_eq : volume.find path = .ok (.file ⟨document.toUTF8⟩))
    (read_eq : source.read document = .error flaw) :
    source.ofFile volume path = .error (.document path.text (.document flaw)) := by
  rw [ofFile, readText_of_find find_eq]
  simp only [bind, Except.bind, parse, read_eq, Except.mapError]

theorem ofFile_of_unread {fault : SettingsFileFault}
    (read_eq : Settings.readText volume path = .error fault) :
    source.ofFile volume path = .error fault := by
  rw [ofFile, read_eq]
  rfl

theorem absent_of_ofFile {name : String}
    (file_eq : source.ofFile volume path = .error (.missing name)) : Absent volume path := by
  rw [ofFile] at file_eq
  cases read_eq : Settings.readText volume path with
  | error fault =>
      rw [read_eq] at file_eq
      obtain rfl : fault = .missing name := Except.error.inj file_eq
      exact absent_of_readText read_eq
  | ok document =>
      rw [read_eq] at file_eq
      cases parse_eq : source.parse document with
      | error fault =>
          simp only [bind, Except.bind, parse_eq, Except.mapError] at file_eq
          cases file_eq
      | ok settings =>
          simp only [bind, Except.bind, parse_eq, Except.mapError] at file_eq
          cases file_eq

/-- A file gives settings only by holding a document with tables of settings. -/
theorem exists_fault_of_not_holds (once : source.NamesOnce)
    (not_holds : ∀ entries, source.Holds volume path entries → ¬Settings.HasTables entries) :
    ∃ fault, source.ofFile volume path = .error fault := by
  cases read_eq : Settings.readText volume path with
  | error fault => exact ⟨fault, ofFile_of_unread read_eq⟩
  | ok document =>
      have find_eq := find_of_readText read_eq
      cases parse_eq : source.read document with
      | error flaw => exact ⟨_, ofFile_of_flaw find_eq parse_eq⟩
      | ok entries =>
          have holds : source.Holds volume path entries := ⟨document, find_eq, parse_eq⟩
          obtain ⟨name, _, refused⟩ := exists_fault_of_holds once holds (not_holds entries holds)
          exact ⟨_, refused⟩

/-! ## The default file -/

theorem load_default_of_absent (absent : Absent volume source.default) :
    source.load volume none = .ok {} := by
  unfold load
  simp only [ofFile_of_unread (readText_of_absent absent)]

theorem load_default_of_not_absent (not_absent : ¬Absent volume source.default) :
    source.load volume none = source.ofFile volume source.default := by
  unfold load
  simp only
  split
  case h_1 file_eq => exact absurd (absent_of_ofFile file_eq) not_absent
  case h_2 => rfl

theorem Holds.not_absent (holds : source.Holds volume path entries) : ¬Absent volume path := by
  obtain ⟨document, find_eq, _⟩ := holds
  rintro ⟨fault, missing_eq, _⟩
  rw [find_eq] at missing_eq
  contradiction

end SettingsSource

namespace SettingsCache

variable {source : SettingsSource} {cache : SettingsCache} {request : SettingsRequest}

/-- The cache after requests. -/
def after (source : SettingsSource) (cache : SettingsCache) (requests : List SettingsRequest) :
    SettingsCache :=
  requests.foldl (fun cache request => (cache.get source request).2) cache

/-- The settings that were given last. -/
def lastGiven {ε : Type} (answers : List (Except ε Settings)) : Option Settings :=
  (answers.filterMap Except.toOption).getLast?

/-! ## One request -/

theorem get_named {path : String} (path_eq : request.path = some path) :
    cache.get source request =
      cache.remember (source.ofFile request.volume (Path.ofText path)) := by
  rw [get, path_eq]
  rfl

theorem get_kept {settings : Settings} (path_eq : request.path = none)
    (latest_eq : cache.latest = some settings) :
    cache.get source request = (.ok settings, cache) := by
  rw [get, path_eq, latest_eq]

theorem get_first (path_eq : request.path = none) (latest_eq : cache.latest = none) :
    cache.get source request = cache.remember (source.load request.volume none) := by
  rw [get, path_eq, latest_eq]

theorem latest_remember (cache : SettingsCache) (loaded : Except SettingsFileFault Settings) :
    (cache.remember loaded).2.latest = (cache.remember loaded).1.toOption.or cache.latest := by
  cases loaded with
  | error fault => rfl
  | ok settings => rfl

/-- Settings that are given are kept, and a refusal leaves what was kept. -/
theorem latest_get (cache : SettingsCache) (request : SettingsRequest) :
    (cache.get source request).2.latest =
      (cache.get source request).1.toOption.or cache.latest := by
  rw [get]
  split
  case h_1 latest_eq => exact latest_eq
  case h_2 => exact latest_remember cache _

/-! ## Many requests -/

theorem answers_append (cache : SettingsCache) (earlier later : List SettingsRequest) :
    cache.answers source (earlier ++ later) =
      cache.answers source earlier ++ (cache.after source earlier).answers source later := by
  induction earlier generalizing cache with
  | nil => rfl
  | cons request rest induction =>
      rw [List.cons_append, answers, answers, induction]
      rfl

theorem lastGiven_cons {ε : Type} (answer : Except ε Settings)
    (answers : List (Except ε Settings)) :
    lastGiven (answer :: answers) = (lastGiven answers).or answer.toOption := by
  rw [lastGiven, lastGiven]
  cases given : answer.toOption with
  | none => rw [List.filterMap_cons_none given, Option.or_none]
  | some settings =>
      rw [List.filterMap_cons_some given, List.getLast?_cons]
      cases (answers.filterMap Except.toOption).getLast? <;> rfl

theorem latest_after (cache : SettingsCache) (requests : List SettingsRequest) :
    (cache.after source requests).latest =
      (lastGiven (cache.answers source requests)).or cache.latest := by
  induction requests generalizing cache with
  | nil => rfl
  | cons request rest induction =>
      have rest_eq := induction (cache.get source request).2
      rw [latest_get, ← Option.or_assoc, ← lastGiven_cons] at rest_eq
      exact rest_eq

theorem get_of_refused {path : String} {fault : SettingsFileFault}
    (path_eq : request.path = some path)
    (refused : source.ofFile request.volume (Path.ofText path) = .error fault) :
    cache.get source request = (.error fault, cache) := by
  rw [get_named path_eq, refused, remember]

theorem exists_get_of_holds {path : String} {entries : Toml.Entries} (once : source.NamesOnce)
    (path_eq : request.path = some path)
    (holds : source.Holds request.volume (Path.ofText path) entries)
    (tables : Settings.HasTables entries) (cache : SettingsCache) :
    ∃ settings, (cache.get source request).1 = .ok settings ∧ settings.Overlays entries := by
  obtain ⟨settings, file_eq, overlays⟩ := SettingsSource.exists_ofFile_of_holds once holds tables
  refine ⟨settings, ?_, overlays⟩
  rw [get_named path_eq, file_eq, remember]

open SettingsSource in
/-- What a request gets and leaves after earlier ones, the first of which found nothing kept. -/
structure Serves (source : SettingsSource) (earlier : List SettingsRequest)
    (request : SettingsRequest) (answer : Except SettingsFileFault Settings)
    (kept : SettingsCache) : Prop where
  /-- The request has its place in every run. -/
  placed : ∀ later, ({} : SettingsCache).answers source (earlier ++ request :: later) =
    ({} : SettingsCache).answers source earlier ++ answer :: kept.answers source later
  /-- A document gives the defaults but for what it declares. -/
  overlays : ∀ path entries, request.path = some path →
    source.Holds request.volume (Path.ofText path) entries → Settings.HasTables entries →
    ∃ settings, answer = .ok settings ∧ settings.Overlays entries
  /-- Nothing else in the document and nothing that was asked before makes a difference. -/
  alike : ∀ path entries otherEarlier other otherPath others,
    request.path = some path → other.path = some otherPath →
    source.Holds request.volume (Path.ofText path) entries → Settings.HasTables entries →
    source.Holds other.volume (Path.ofText otherPath) others → Settings.HasTables others →
    (∀ (name : SettingName) value,
      name.DeclaredIn entries value ↔ name.DeclaredIn others value) →
    answer = ((({} : SettingsCache).after source otherEarlier).get source other).1
  /-- A file without a document, or with one that has something else under the name of a table of
  settings, is refused, and what was kept stays. -/
  refused : ∀ path, request.path = some path →
    (∀ entries, source.Holds request.volume (Path.ofText path) entries →
      ¬Settings.HasTables entries) →
    (∃ fault, answer = .error fault) ∧ kept = ({} : SettingsCache).after source earlier
  /-- The refusal tells whether the file is missing. -/
  missing : ∀ path, request.path = some path → Absent request.volume (Path.ofText path) →
    answer = .error (.missing (Path.ofText path).text)
  /-- It tells of a text that is no document. -/
  malformed : ∀ path (document : String) flaw, request.path = some path →
    request.volume.find (Path.ofText path) = .ok (.file ⟨document.toUTF8⟩) →
    source.read document = .error flaw →
    answer = .error (.document (Path.ofText path).text (.document flaw))
  /-- It tells which table of settings is none. -/
  misshapen : ∀ path entries, request.path = some path →
    source.Holds request.volume (Path.ofText path) entries → ¬Settings.HasTables entries →
    ∃ name ∈ ["global", "dump"],
      answer = .error (.document (Path.ofText path).text (.groupNotTable name))
  /-- Without a file the request gets what was given last. -/
  again : ∀ settings, request.path = none →
    lastGiven (({} : SettingsCache).answers source earlier) = some settings →
    answer = .ok settings ∧ kept = ({} : SettingsCache).after source earlier
  /-- Without a file, and if nothing was given so far, the request gets what the default file
  declares over the defaults. -/
  default : ∀ entries, request.path = none →
    lastGiven (({} : SettingsCache).answers source earlier) = none →
    source.Holds request.volume source.default entries → Settings.HasTables entries →
    ∃ settings, answer = .ok settings ∧ settings.Overlays entries
  /-- It gets the defaults if there is no default file. -/
  default_missing : request.path = none →
    lastGiven (({} : SettingsCache).answers source earlier) = none →
    Absent request.volume source.default → answer = .ok {}
  /-- A default file of any other kind is refused. -/
  default_refused : request.path = none →
    lastGiven (({} : SettingsCache).answers source earlier) = none →
    ¬Absent request.volume source.default →
    (∀ entries, source.Holds request.volume source.default entries →
      ¬Settings.HasTables entries) →
    (∃ fault, answer = .error fault) ∧ kept = ({} : SettingsCache).after source earlier

/-- Every request is served as it should, whatever was asked before. -/
theorem serves_request (source : SettingsSource) (once : source.NamesOnce)
    (earlier : List SettingsRequest) (request : SettingsRequest) :
    Serves source earlier request
      ((({} : SettingsCache).after source earlier).get source request).1
      ((({} : SettingsCache).after source earlier).get source request).2 := by
  have kept_eq : (({} : SettingsCache).after source earlier).latest =
      lastGiven (({} : SettingsCache).answers source earlier) := by
    rw [latest_after, Option.or_none]
  constructor
  case placed => exact fun later => answers_append {} earlier (request :: later)
  case overlays =>
    exact fun path entries path_eq holds tables => exists_get_of_holds once path_eq holds tables _
  case alike =>
    intro path entries otherEarlier other otherPath others path_eq other_eq holds tables
      other_holds other_tables same
    obtain ⟨settings, get_eq, overlays⟩ :=
      exists_get_of_holds once path_eq holds tables (({} : SettingsCache).after source earlier)
    obtain ⟨otherSettings, other_get_eq, other_overlays⟩ :=
      exists_get_of_holds once other_eq other_holds other_tables
        (({} : SettingsCache).after source otherEarlier)
    rw [get_eq, other_get_eq, overlays.eq_of_same other_overlays same]
  case refused =>
    intro path path_eq not_holds
    obtain ⟨fault, file_eq⟩ := SettingsSource.exists_fault_of_not_holds once not_holds
    rw [get_of_refused path_eq file_eq]
    exact ⟨⟨fault, rfl⟩, rfl⟩
  case missing =>
    intro path path_eq absent
    have read_eq := SettingsSource.readText_of_absent absent
    rw [get_of_refused path_eq (SettingsSource.ofFile_of_unread read_eq)]
  case malformed =>
    intro path document flaw path_eq find_eq read_eq
    rw [get_of_refused path_eq (SettingsSource.ofFile_of_flaw find_eq read_eq)]
  case misshapen =>
    intro path entries path_eq holds not_tables
    obtain ⟨name, member, file_eq⟩ :=
      SettingsSource.exists_fault_of_holds once holds not_tables
    rw [get_of_refused path_eq file_eq]
    exact ⟨name, member, rfl⟩
  case again =>
    intro settings path_eq given
    rw [get_kept path_eq (kept_eq.trans given)]
    exact ⟨rfl, rfl⟩
  case default =>
    intro entries path_eq not_given holds tables
    obtain ⟨settings, file_eq, overlays⟩ :=
      SettingsSource.exists_ofFile_of_holds once holds tables
    refine ⟨settings, ?_, overlays⟩
    rw [get_first path_eq (kept_eq.trans not_given),
      SettingsSource.load_default_of_not_absent holds.not_absent, file_eq, remember]
  case default_missing =>
    intro path_eq not_given absent
    rw [get_first path_eq (kept_eq.trans not_given),
      SettingsSource.load_default_of_absent absent, remember]
  case default_refused =>
    intro path_eq not_given not_absent not_holds
    obtain ⟨fault, file_eq⟩ := SettingsSource.exists_fault_of_not_holds once not_holds
    rw [get_first path_eq (kept_eq.trans not_given),
      SettingsSource.load_default_of_not_absent not_absent, file_eq, remember]
    exact ⟨⟨fault, rfl⟩, rfl⟩

/-- A document with a setting behind a table that holds none. -/
def sampleDocument : String := "[other]\nratio = 0.5\n\n[dump]\nname_width = 40\n"

/-- A volume with the document in the file `a`. -/
def sampleVolume : Volume :=
  (Volume.atDirectory ["w"]).putFile ["w", "a"] ⟨sampleDocument.toUTF8⟩

/-- A source of settings without a default file in the volume. -/
def sampleSource : SettingsSource := { read := Toml.parse, default := Path.ofText "d" }

/-- A request for settings of the volume. -/
def sampleRequest (path : Option String) : SettingsRequest :=
  { volume := sampleVolume, path := path }

set_option maxRecDepth 4000 in
theorem sample_holds : sampleSource.Holds sampleVolume (Path.ofText "a")
    [("other", .record [("ratio", .fraction "0.5")]),
      ("dump", .record [("name_width", .integer 40)])] :=
  ⟨sampleDocument, by cbv, by cbv⟩

theorem sample_absent : SettingsSource.Absent sampleVolume (Path.ofText "m") :=
  ⟨.missing "m", by cbv, by simp⟩

/-- Refusals before and after a file leave its settings for those who name none. -/
theorem serves_between_refusals :
    sampleSource.NamesOnce ∧ ∃ settings : Settings, settings.dump.nameWidth = .integer 40 ∧
      settings.dump.color = .boolean true ∧
      ({} : SettingsCache).answers sampleSource
          ([some "m", some "a", some "m", none].map sampleRequest) =
        [.error (.missing "m"), .ok settings, .error (.missing "m"), .ok settings] := by
  have once : sampleSource.NamesOnce := fun _ _ => Toml.wellNamed_of_parse
  have tables : Settings.HasTables [("other", .record [("ratio", .fraction "0.5")]),
      ("dump", .record [("name_width", .integer 40)])] := by
    simp [Settings.HasTables]
  have text_eq : (Path.ofText "m").text = "m" := by cbv
  let missing := sampleRequest (some "m")
  let present := sampleRequest (some "a")
  let unnamed := sampleRequest none
  have first := (serves_request sampleSource once [] missing).missing "m" rfl sample_absent
  obtain ⟨settings, second, overlays⟩ :=
    (serves_request sampleSource once [missing] present).overlays "a" _ rfl sample_holds tables
  have third :=
    (serves_request sampleSource once [missing, present] missing).missing "m" rfl sample_absent
  rw [text_eq] at first third
  have begun : ({} : SettingsCache).answers sampleSource [missing, present, missing] =
      [.error (.missing "m"), .ok settings, .error (.missing "m")] := by
    rw [answers, answers, answers, answers]
    exact congrArg₂ List.cons first (congrArg₂ List.cons second (congrArg₂ List.cons third rfl))
  have fourth :=
    (serves_request sampleSource once [missing, present, missing] unnamed).again settings rfl
      (congrArg lastGiven begun)
  have declared := overlays.declared .nameWidth (.integer 40)
  have undeclared := overlays.undeclared .color
  simp only [SettingName.DeclaredIn, SettingName.table, SettingName.isGlobal, SettingName.key]
    at declared undeclared
  refine ⟨once, settings, declared (by simp), undeclared (by simp), ?_⟩
  calc ({} : SettingsCache).answers sampleSource ([missing, present, missing] ++ [unnamed])
      = ({} : SettingsCache).answers sampleSource [missing, present, missing] ++
          [((({} : SettingsCache).after sampleSource [missing, present, missing]).get sampleSource
            unnamed).1] := answers_append {} _ _
    _ = _ := by rw [begun, fourth.1]; rfl

end SettingsCache
end ElfInspect
