import ElfInspect.Proofs.Toml.Names
import ElfInspect.Settings

/-!
# Settings over defaults

A document changes those settings that it names in their tables and no others.  What else it holds,
and in which order, makes no difference.
-/

namespace ElfInspect

/-- The settings that there are. -/
inductive SettingName where
  | logLevel
  | logFile
  | logJson
  | debug
  | version
  | maxFileSize
  | warningsExitCode
  | nameWidth
  | color

/-- The value of a setting. -/
def Settings.value (settings : Settings) : SettingName → Value
  | .logLevel => settings.globalSettings.logLevel
  | .logFile => settings.globalSettings.logFile
  | .logJson => settings.globalSettings.logJson
  | .debug => settings.globalSettings.debug
  | .version => settings.globalSettings.version
  | .maxFileSize => settings.dump.maxFileSize
  | .warningsExitCode => settings.dump.warningsExitCode
  | .nameWidth => settings.dump.nameWidth
  | .color => settings.dump.color

namespace SettingName

/-- Whether a setting is one of the log and of the program as a whole. -/
def isGlobal : SettingName → Bool
  | logLevel => true
  | logFile => true
  | logJson => true
  | debug => true
  | version => true
  | _ => false

/-- The table that holds a setting in documents. -/
def table (name : SettingName) : String := if name.isGlobal then "global" else "dump"

/-- The key of a setting in documents. -/
def key : SettingName → String
  | logLevel => "log_level"
  | logFile => "log_file"
  | logJson => "log_json"
  | debug => "debug"
  | version => "version"
  | maxFileSize => "max_file_size"
  | warningsExitCode => "warnings_exit_code"
  | nameWidth => "name_width"
  | color => "color"

/-- A document gives a setting a value. -/
def DeclaredIn (name : SettingName) (entries : Toml.Entries) (value : Value) : Prop :=
  ∃ table, (name.table, .record table) ∈ entries ∧ (name.key, value) ∈ table

end SettingName

namespace Settings

variable {entries others : Toml.Entries} {settings : Settings}

/-- What a document has under the names of the tables of settings are tables. -/
def HasTables (entries : Toml.Entries) : Prop :=
  ∀ group ∈ ["global", "dump"], ∀ value, (group, value) ∈ entries → ∃ table, value = .record table

/-- The defaults, but for the settings to which a document gives a value. -/
structure Overlays (settings : Settings) (entries : Toml.Entries) : Prop where
  declared : ∀ name value, name.DeclaredIn entries value → settings.value name = value
  undeclared : ∀ name, (∀ value, ¬name.DeclaredIn entries value) →
    settings.value name = ({} : Settings).value name

theorem ext_value {left right : Settings} (same : ∀ name, left.value name = right.value name) :
    left = right := by
  obtain ⟨⟨_, _, _, _, _⟩, ⟨_, _, _, _⟩⟩ := left
  obtain ⟨⟨_, _, _, _, _⟩, ⟨_, _, _, _⟩⟩ := right
  simp only [mk.injEq, GlobalSettings.mk.injEq, DumpSettings.mk.injEq]
  exact ⟨⟨same .logLevel, same .logFile, same .logJson, same .debug, same .version⟩,
    same .maxFileSize, same .warningsExitCode, same .nameWidth, same .color⟩

/-- Documents that give the same values to settings do so with the same result. -/
theorem Overlays.eq_of_same {other : Settings} (overlays : settings.Overlays entries)
    (others_overlay : other.Overlays others)
    (same : ∀ (name : SettingName) value,
      name.DeclaredIn entries value ↔ name.DeclaredIn others value) : settings = other := by
  refine ext_value fun name => ?_
  by_cases declared : ∃ value, name.DeclaredIn entries value
  · obtain ⟨value, declared⟩ := declared
    rw [overlays.declared name value declared,
      others_overlay.declared name value ((same name value).mp declared)]
  · rw [not_exists] at declared
    rw [overlays.undeclared name declared, others_overlay.undeclared name fun value =>
      fun other_declared => declared value ((same name value).mpr other_declared)]

/-! ## Tables of settings -/

theorem group_eq_ok_iff {name : String} {table : Toml.Entries} :
    group entries name = .ok table ↔
      Value.entry? name entries = none ∧ table = [] ∨
        Value.entry? name entries = some (.record table) := by
  rw [group]
  cases Value.entry? name entries with
  | none => simp [eq_comm]
  | some value => cases value <;> simp

theorem exists_group (tables : HasTables entries) {name : String}
    (member : name ∈ ["global", "dump"]) : ∃ table, group entries name = .ok table := by
  cases found : Value.entry? name entries with
  | none => exact ⟨[], group_eq_ok_iff.mpr (.inl ⟨found, rfl⟩)⟩
  | some value =>
      obtain ⟨table, rfl⟩ := tables name member value (Value.mem_of_found found)
      exact ⟨table, group_eq_ok_iff.mpr (.inr found)⟩

theorem hasTable_of_group {name : String} {table : Toml.Entries} {value : Value}
    (named : (Value.record entries).WellNamed) (group_eq : group entries name = .ok table)
    (member : (name, value) ∈ entries) : value = .record table := by
  have found := (Value.entry?_eq_some_iff (Value.wellNamed_record_iff.mp named).1).mpr member
  rcases group_eq_ok_iff.mp group_eq with ⟨absent, _⟩ | present
  · rw [absent] at found
    contradiction
  · rw [present] at found
    exact (Option.some.inj found).symm

theorem declaredIn_iff {name : SettingName} {table : Toml.Entries}
    (named : (Value.record entries).WellNamed) (group_eq : group entries name.table = .ok table)
    (value : Value) : name.DeclaredIn entries value ↔ Value.entry? name.key table = some value := by
  constructor
  · rintro ⟨other, other_mem, value_mem⟩
    obtain rfl := Value.record.inj (hasTable_of_group named group_eq other_mem)
    have other_named := (Value.wellNamed_record_iff.mp named).2 _ other_mem
    exact (Value.entry?_eq_some_iff (Value.wellNamed_record_iff.mp other_named).1).mpr value_mem
  · intro found
    rcases group_eq_ok_iff.mp group_eq with ⟨_, rfl⟩ | present
    · contradiction
    · exact ⟨table, Value.mem_of_found present, Value.mem_of_found found⟩

/-- The settings that two tables give. -/
def ofTables (globalTable dumpTable : Toml.Entries) : Settings :=
  { globalSettings := globalOf globalTable, dump := dumpOf dumpTable }

theorem value_ofTables (globalTable dumpTable : Toml.Entries) (name : SettingName) :
    (ofTables globalTable dumpTable).value name =
      override (if name.isGlobal then globalTable else dumpTable) name.key
        (({} : Settings).value name) := by
  cases name <;> rfl

theorem overlays_ofTables {globalTable dumpTable : Toml.Entries}
    (named : (Value.record entries).WellNamed)
    (global_eq : group entries "global" = .ok globalTable)
    (dump_eq : group entries "dump" = .ok dumpTable) :
    (ofTables globalTable dumpTable).Overlays entries := by
  have group_eq : ∀ name : SettingName,
      group entries name.table = .ok (if name.isGlobal then globalTable else dumpTable) := by
    intro name
    rw [SettingName.table]
    cases name.isGlobal with
    | true => exact global_eq
    | false => exact dump_eq
  constructor
  · intro name value declared
    rw [value_ofTables, override, (declaredIn_iff named (group_eq name) value).mp declared]
    rfl
  · intro name undeclared
    rw [value_ofTables, override]
    cases found : Value.entry? name.key (if name.isGlobal then globalTable else dumpTable) with
    | none => rfl
    | some value =>
        have declared := (declaredIn_iff named (group_eq name) value).mpr found
        exact absurd declared (undeclared value)

/-! ## Documents -/

theorem exists_ofEntries (named : (Value.record entries).WellNamed) (tables : HasTables entries) :
    ∃ settings, ofEntries entries = .ok settings ∧ settings.Overlays entries := by
  have global_mem : "global" ∈ ["global", "dump"] := by decide
  have dump_mem : "dump" ∈ ["global", "dump"] := by decide
  obtain ⟨globalTable, global_eq⟩ := exists_group tables global_mem
  obtain ⟨dumpTable, dump_eq⟩ := exists_group tables dump_mem
  refine ⟨ofTables globalTable dumpTable, ?_, overlays_ofTables named global_eq dump_eq⟩
  rw [ofEntries, global_eq, dump_eq]
  rfl

/-- Keys that no setting has and tables that hold no settings are passed over. -/
example :
    ofEntries
        [("other", .record [("color", .null)]),
          ("dump", .record [("colour", .boolean false), ("name_width", .integer 40)])] =
      .ok { dump := { nameWidth := .integer 40 } } := by
  rfl

theorem eq_groupNotTable_of_group {name : String} {fault : SettingsFault}
    (failed : group entries name = .error fault) : fault = .groupNotTable name := by
  rw [group] at failed
  split at failed
  case h_1 => contradiction
  case h_2 => contradiction
  case h_3 => exact (Except.error.inj failed).symm

theorem exists_fault_of_not_hasTables (named : (Value.record entries).WellNamed)
    (not_tables : ¬HasTables entries) :
    ∃ name ∈ ["global", "dump"], ofEntries entries = .error (.groupNotTable name) := by
  cases global_eq : group entries "global" with
  | error fault =>
      obtain rfl := eq_groupNotTable_of_group global_eq
      refine ⟨"global", by decide, ?_⟩
      rw [ofEntries, global_eq]
      rfl
  | ok globalTable =>
      cases dump_eq : group entries "dump" with
      | error fault =>
          obtain rfl := eq_groupNotTable_of_group dump_eq
          refine ⟨"dump", by decide, ?_⟩
          rw [ofEntries, global_eq, dump_eq]
          rfl
      | ok dumpTable =>
          refine absurd ?_ not_tables
          intro name member value value_mem
          rcases List.mem_pair.mp member with rfl | rfl
          · exact ⟨globalTable, hasTable_of_group named global_eq value_mem⟩
          · exact ⟨dumpTable, hasTable_of_group named dump_eq value_mem⟩

end Settings
end ElfInspect
