import ElfInspect.Proofs.Alike
import ElfInspect.Proofs.DynamicEntry
import ElfInspect.Proofs.Symbol.RoundTrip

/-!
# What damage to a string table does

A place outside the string table costs one name, and an unusable string table costs all names of
those who use it.  Nothing but names and their markers depends on a string table.
-/

namespace ElfInspect

/-- The placeholder stands in place of a name, beside a marker of a kind. -/
def Marker.Replaces (kind : String) (name : String) (nameError : Option Marker) : Prop :=
  name = "<corrupt>" ∧
    ∃ marker, nameError = some marker ∧ marker.kind = kind ∧ marker.field = "name"

namespace Section

/-- The string at a place of a section, which a zero byte or the end of the section ends. -/
def stringAt (strings : Section) (image : Image) (place : Int) : String :=
  Utf8.decode
    ((image.slice (strings.fileOffset + place).toNat
      (strings.fileOffset + strings.size).toNat).takeWhile (· ≠ 0))

/-- A name and its marker are what a place of a section of strings stands for. -/
structure NamesAt (strings : Section) (image : Image) (place : Int) (name : String)
    (nameError : Option Marker) : Prop where
  replaced_iff : Marker.Replaces "BadStringOffset" name nameError ↔ strings.size ≤ place
  found : place < strings.size →
    nameError = none ∧ (0 ≤ strings.fileOffset → name = strings.stringAt image place)

section Lookup

variable {strings : Section} {image : Image} {place : Int}

theorem lookup_of_lt (offset_nonneg : 0 ≤ strings.fileOffset) (place_nonneg : 0 ≤ place)
    (place_lt : place < strings.size) :
    StringTable.lookup ⟨image, strings.fileOffset, strings.size⟩ place =
      .ok (strings.stringAt image place) := by
  rw [StringTable.lookup, if_neg (by simp only; omega),
    StringTable.nameBytes_eq offset_nonneg place_nonneg place_lt, stringAt]

theorem namesAt_lookupName (inside : strings.fileOffset + strings.size ≤ image.size)
    (place_nonneg : 0 ≤ place) :
    strings.NamesAt image place
      (Symbol.lookupName (StringTable.ofSection image strings) place).1
      (Symbol.lookupName (StringTable.ofSection image strings) place).2 := by
  rw [StringTable.ofSection_of_inside inside]
  by_cases outside : strings.size ≤ place
  · have lost : StringTable.lookup ⟨image, strings.fileOffset, strings.size⟩ place =
        .error (.badStringOffset place strings.size) := if_pos (.inr outside)
    simp only [Symbol.lookupName, lost]
    exact ⟨⟨fun _ => outside, fun _ => ⟨rfl, _, rfl, rfl, rfl⟩⟩, fun place_lt => by omega⟩
  · obtain ⟨name, found⟩ : ∃ name,
        StringTable.lookup ⟨image, strings.fileOffset, strings.size⟩ place = .ok name :=
      ⟨_, if_neg (by simp only; omega)⟩
    simp only [Symbol.lookupName, found]
    refine ⟨⟨?_, fun lost => absurd lost outside⟩, fun place_lt => ⟨rfl, fun offset_nonneg => ?_⟩⟩
    · rintro ⟨_, marker, marked, _⟩
      contradiction
    · rw [lookup_of_lt offset_nonneg place_nonneg place_lt] at found
      exact (Except.ok.inj found).symm

end Lookup

/-! ## Names of sections -/

section Resolving

variable {sections : List Section} {strings : Section} {image : Image} {index : Int}

theorem nameTable_unnamed (sections : List Section) (image : Image) (index : Int) :
    nameTable (sections.map unnamed) image index = nameTable sections image index := by
  rw [nameTable, nameTable, List.getElem?_map, List.length_map]
  cases sections[index.toNat]? <;> rfl

theorem nameBy_nameBy (find : Except Fault (Int → Except Fault String)) (header : Section) :
    (header.nameBy find).nameBy find = header.nameBy find := by
  cases find with
  | error fault => rfl
  | ok look =>
      cases found : look header.nameOffset with
      | error fault => simp only [nameBy, found, withNameFault]
      | ok name => simp only [nameBy, found]

/-- Names that have been looked up are not changed by looking them up again. -/
theorem resolveNames_resolveNames (sections : List Section) (image : Image) (index : Int) :
    resolveNames (resolveNames sections image index) image index =
      resolveNames sections image index := by
  have same_table : nameTable (resolveNames sections image index) image index =
      nameTable sections image index := by
    rw [← nameTable_unnamed, map_unnamed_resolveNames, nameTable_unnamed]
  rw [resolveNames_eq (resolveNames sections image index), same_table, resolveNames_eq,
    List.map_map]
  apply List.map_congr_left
  intro header _
  exact nameBy_nameBy _ header

/-- An unusable table of names puts the same marker on every section. -/
theorem replaced_of_unusable
    (unusable : ∀ strings ∈ sections[index.toNat]?,
      image.size < strings.fileOffset + strings.size) :
    ∃ marker : Marker, marker.kind = "OutOfBounds" ∧ marker.field = "name" ∧
      ∀ header ∈ resolveNames sections image index,
        header.name = some "<corrupt>" ∧ header.nameError = some marker := by
  obtain ⟨overrun, lost⟩ :
      ∃ overrun, nameTable sections image index = .error (.outOfBounds overrun) := by
    unfold nameTable
    cases found : sections[index.toNat]? with
    | none => exact ⟨_, rfl⟩
    | some strings => exact StringTable.ofSection_of_outside (unusable strings found)
  refine ⟨(Fault.outOfBounds overrun).marker "name", rfl, rfl, ?_⟩
  intro header member
  rw [resolveNames, lost] at member
  obtain ⟨before, _, rfl⟩ := List.mem_map.mp member
  exact ⟨rfl, rfl⟩

/-- A usable table of names gives each section what stands at its own place. -/
theorem namesAt_of_usable
    (fresh : ∀ header ∈ sections, header.nameError = none ∧ 0 ≤ header.nameOffset)
    (strings_eq : sections[index.toNat]? = some strings)
    (inside : strings.fileOffset + strings.size ≤ image.size) :
    ∀ header ∈ resolveNames sections image index,
      ∃ name, header.name = some name ∧
        strings.NamesAt image header.nameOffset name header.nameError := by
  have table_eq : nameTable sections image index =
      .ok ⟨image, strings.fileOffset, strings.size⟩ := by
    rw [nameTable, strings_eq]
    exact StringTable.ofSection_of_inside inside
  intro header member
  rw [resolveNames, table_eq] at member
  obtain ⟨before, before_mem, rfl⟩ := List.mem_map.mp member
  obtain ⟨unmarked, place_nonneg⟩ := fresh before before_mem
  have names := namesAt_lookupName inside place_nonneg
  rw [StringTable.ofSection_of_inside inside] at names
  unfold resolveName
  cases looked : StringTable.lookup ⟨image, strings.fileOffset, strings.size⟩
      before.nameOffset with
  | ok name =>
      simp only [Symbol.lookupName, looked] at names
      exact ⟨name, rfl, by rwa [unmarked]⟩
  | error fault =>
      simp only [Symbol.lookupName, looked] at names
      exact ⟨placeholderName, rfl, names⟩

end Resolving

end Section

/-! ## Names of symbols -/

namespace Symbol

variable {image : Image} {header : Section} {identity : Identity} {symbols : List Symbol}

/-- Symbols are the same with any string table, but for their names. -/
theorem alike_unnamed (image : Image) (header : Section) (identity : Identity)
    (linked other : Option Section) :
    Alike (fun symbols others => symbols.map unnamed = others.map unnamed)
      (decodeSection image header linked identity) (decodeSection image header other identity) := by
  have same_entries :
      Alike (List.Forall₂ fun symbol other => symbol.unnamed = other.unnamed)
        (decodeSection image header linked identity)
        (decodeSection image header other identity) := by
    apply Alike.after
    apply Alike.after
    apply Table.collect_alike
    intro index
    apply (Alike.refl _).bind
    rintro record _ rfl
    exact .decoded rfl
  exact same_entries.mono fun _ _ => map_eq_map_of_forall₂

/-- Every decoded symbol has its name from the place that it names. -/
theorem lookupName_of_decodeSection {linked : Option Section}
    (decoded : decodeSection image header linked identity = .ok symbols) :
    ∀ symbol ∈ symbols, 0 ≤ symbol.nameOffset ∧
      (symbol.name, symbol.nameError) =
        lookupName (linkedStrings image header.link linked) symbol.nameOffset := by
  intro symbol member
  obtain ⟨index, index_eq⟩ := List.mem_iff_getElem?.mp member
  obtain ⟨base, _, _, rfl⟩ := (symbol_of_decodeSection decoded).2 index symbol index_eq
  exact ⟨Layout.valueAt_nonneg FieldName.nameOffset, rfl⟩

theorem linkedStrings_of_unusable (link : Int) {linked : Option Section}
    (unusable : ∀ strings ∈ linked, image.size < strings.fileOffset + strings.size) :
    ∃ overrun, linkedStrings image link linked = .error (.outOfBounds overrun) := by
  cases linked with
  | none => exact ⟨_, rfl⟩
  | some strings => exact StringTable.ofSection_of_outside (unusable strings rfl)

end Symbol

/-! ## Names of dynamic entries -/

namespace DynamicEntry

variable {image : Image} {header : Section} {identity : Identity} {entries : List DynamicEntry}

/-- Entries are the same with any string table, but for their names. -/
theorem alike_unnamed (image : Image) (header : Section) (identity : Identity)
    (linked other : Option Section) :
    Alike (fun entries others => entries.map unnamed = others.map unnamed)
      (decodeSection image header linked identity) (decodeSection image header other identity) := by
  have same_entries :
      Alike (List.Forall₂ fun entry other => entry.unnamed = other.unnamed)
        (decodeSection image header linked identity)
        (decodeSection image header other identity) := by
    simp only [decodeSection]
    split
    · exact .failed _
    · apply Table.collectUntil_alike
      · intro index
        apply (Alike.refl _).bind
        rintro tag _ rfl
        apply (Alike.refl _).bind
        rintro value _ rfl
        apply Alike.decoded
        rw [unnamed_ofWords, unnamed_ofWords]
      · intro entry other same
        exact congrArg (fun entry => decide (entry.tag = DynamicTag.null)) same
  exact same_entries.mono fun _ _ => map_eq_map_of_forall₂

theorem ofWords_of_named (strings : Except Fault StringTable) {tag : Int} (value : Int)
    (named : tag ∈ DynamicTag.named) :
    ofWords strings tag value =
      { tag := tag
        value := value
        name := some (Symbol.lookupName strings value).1
        nameError := (Symbol.lookupName strings value).2 } := by
  simp only [ofWords, if_pos named]
  cases strings with
  | error fault => rfl
  | ok table =>
      cases found : table.lookup value with
      | error fault => simp only [Symbol.lookupName, found, withNameFault]
      | ok name => simp only [Symbol.lookupName, found]

theorem ofWords_of_not_named (strings : Except Fault StringTable) {tag : Int} (value : Int)
    (not_named : tag ∉ DynamicTag.named) :
    ofWords strings tag value = { tag := tag, value := value } := by
  simp only [ofWords, if_neg not_named]

/-- Every decoded entry is told by its tag and value, and the string table. -/
theorem words_of_decodeSection {linked : Option Section}
    (decoded : decodeSection image header linked identity = .ok entries) :
    ∀ entry ∈ entries, 0 ≤ entry.value ∧
      entry = ofWords (linkedStrings image header.link linked) entry.tag entry.value := by
  simp only [decodeSection] at decoded
  split at decoded
  · contradiction
  · refine Table.forall_mem_of_collectUntil (fun entry => 0 ≤ entry.value ∧
      entry = ofWords (linkedStrings image header.link linked) entry.tag entry.value) ?_ decoded
    intro index entry read
    obtain ⟨tag, _, rest⟩ := exists_of_bind_eq_ok read
    obtain ⟨value, value_read, done⟩ := exists_of_bind_eq_ok rest
    obtain rfl := Except.ok.inj done
    rw [tag_ofWords, value_ofWords]
    exact ⟨Image.nonneg_of_unsigned value_read, rfl⟩

/-- An entry has a name exactly if its tag calls for one, and then it is as it should be. -/
def Named (entry : DynamicEntry) (IsName : String → Option Marker → Prop) : Prop :=
  if entry.tag ∈ DynamicTag.named then
    ∃ name, entry.name = some name ∧ IsName name entry.nameError
  else entry.name = none ∧ entry.nameError = none

theorem named_of_decodeSection {linked : Option Section}
    (IsName : Int → String → Option Marker → Prop)
    (decoded : decodeSection image header linked identity = .ok entries)
    (is_name : ∀ place, 0 ≤ place →
      IsName place (Symbol.lookupName (linkedStrings image header.link linked) place).1
        (Symbol.lookupName (linkedStrings image header.link linked) place).2) :
    ∀ entry ∈ entries, entry.Named (IsName entry.value) := by
  intro entry member
  obtain ⟨value_nonneg, entry_eq⟩ := words_of_decodeSection decoded entry member
  unfold Named
  by_cases named : entry.tag ∈ DynamicTag.named
  · rw [if_pos named]
    rw [ofWords_of_named _ _ named] at entry_eq
    rw [entry_eq]
    exact ⟨_, rfl, is_name entry.value value_nonneg⟩
  · rw [if_neg named]
    rw [ofWords_of_not_named _ _ named] at entry_eq
    rw [entry_eq]
    exact ⟨rfl, rfl⟩

theorem linkedStrings_of_unusable (link : Int) {linked : Option Section}
    (unusable : ∀ strings ∈ linked, image.size < strings.fileOffset + strings.size) :
    ∃ overrun, linkedStrings image link linked = .error (.outOfBounds overrun) := by
  cases linked with
  | none => exact ⟨_, rfl⟩
  | some strings =>
      obtain ⟨overrun, lost⟩ := StringTable.ofSection_of_outside (unusable strings rfl)
      simp only [linkedStrings, lost]
      exact ⟨_, rfl⟩

end DynamicEntry

/-- Looking up names changes nothing but names, and only once; what a place of a string table does
not lead to is marked there alone, and what needs an unusable string table is marked alike. -/
theorem names_damaged_exactly (image : Image) :
    (∀ (sections : List Section) (index : Int),
      (∀ header ∈ sections, header.nameError = none ∧ ∀ name, 0 ≤ header.field name) →
      0 ≤ index →
        (Section.resolveNames sections image index).map Section.unnamed =
            sections.map Section.unnamed ∧
          Section.resolveNames (Section.resolveNames sections image index) image index =
            Section.resolveNames sections image index ∧
          ((∀ strings ∈ sections[index.toNat]?,
              image.size < strings.fileOffset + strings.size) →
            ∃ marker : Marker, marker.kind = "OutOfBounds" ∧ marker.field = "name" ∧
              ∀ header ∈ Section.resolveNames sections image index,
                header.name = some "<corrupt>" ∧ header.nameError = some marker) ∧
          ∀ strings ∈ sections[index.toNat]?, strings.fileOffset + strings.size ≤ image.size →
            ∀ header ∈ Section.resolveNames sections image index,
              ∃ name, header.name = some name ∧
                strings.NamesAt image header.nameOffset name header.nameError) ∧
      ∀ (header : Section) (identity : Identity),
        (∀ linked other : Option Section,
          Alike (fun symbols others => symbols.map Symbol.unnamed = others.map Symbol.unnamed)
              (Symbol.decodeSection image header linked identity)
              (Symbol.decodeSection image header other identity) ∧
            Alike
              (fun entries others =>
                entries.map DynamicEntry.unnamed = others.map DynamicEntry.unnamed)
              (DynamicEntry.decodeSection image header linked identity)
              (DynamicEntry.decodeSection image header other identity)) ∧
          (∀ strings : Section, strings.fileOffset + strings.size ≤ image.size →
            (∀ symbols, Symbol.decodeSection image header (some strings) identity = .ok symbols →
              ∀ symbol ∈ symbols,
                strings.NamesAt image symbol.nameOffset symbol.name symbol.nameError) ∧
            ∀ entries,
              DynamicEntry.decodeSection image header (some strings) identity = .ok entries →
                ∀ entry ∈ entries, entry.Named (strings.NamesAt image entry.value)) ∧
          ∀ linked : Option Section,
            (∀ strings ∈ linked, image.size < strings.fileOffset + strings.size) →
              (∃ marker : Marker, marker.kind = "OutOfBounds" ∧ marker.field = "name" ∧
                ∀ symbols, Symbol.decodeSection image header linked identity = .ok symbols →
                  ∀ symbol ∈ symbols,
                    symbol.name = "<corrupt>" ∧ symbol.nameError = some marker) ∧
              ∃ marker : Marker, marker.kind = "OutOfBounds" ∧ marker.field = "name" ∧
                ∀ entries, DynamicEntry.decodeSection image header linked identity = .ok entries →
                  ∀ entry ∈ entries, entry.Named fun name nameError =>
                    name = "<corrupt>" ∧ nameError = some marker := by
  refine ⟨?sections, fun header identity => ⟨?numbers, ?usable, ?unusable⟩⟩
  case sections =>
    intro sections index fresh _
    refine ⟨Section.map_unnamed_resolveNames sections image index,
      Section.resolveNames_resolveNames sections image index, Section.replaced_of_unusable, ?_⟩
    intro strings strings_eq inside
    apply Section.namesAt_of_usable _ strings_eq inside
    exact fun header member => ⟨(fresh header member).1, (fresh header member).2 .nameOffset⟩
  case numbers =>
    intro linked other
    exact ⟨Symbol.alike_unnamed image header identity linked other,
      DynamicEntry.alike_unnamed image header identity linked other⟩
  case usable =>
    intro strings inside
    constructor
    · intro symbols decoded symbol member
      obtain ⟨place_nonneg, names_eq⟩ := Symbol.lookupName_of_decodeSection decoded symbol member
      have names := Section.namesAt_lookupName inside place_nonneg
      rw [Symbol.linkedStrings] at names_eq
      rwa [← names_eq] at names
    · intro entries decoded
      apply DynamicEntry.named_of_decodeSection (strings.NamesAt image) decoded
      intro place place_nonneg
      have same_strings : DynamicEntry.linkedStrings image header.link (some strings) =
          StringTable.ofSection image strings := by
        simp only [DynamicEntry.linkedStrings, StringTable.ofSection_of_inside inside]
      rw [same_strings]
      exact Section.namesAt_lookupName inside place_nonneg
  case unusable =>
    intro linked unusable
    constructor
    · obtain ⟨overrun, lost⟩ := Symbol.linkedStrings_of_unusable header.link unusable
      refine ⟨(Fault.outOfBounds overrun).marker "name", rfl, rfl, ?_⟩
      intro symbols decoded symbol member
      obtain ⟨_, names_eq⟩ := Symbol.lookupName_of_decodeSection decoded symbol member
      rw [lost] at names_eq
      exact Prod.mk.inj names_eq
    · obtain ⟨overrun, lost⟩ := DynamicEntry.linkedStrings_of_unusable header.link unusable
      refine ⟨(Fault.outOfBounds overrun).marker "name", rfl, rfl, ?_⟩
      intro entries decoded
      apply DynamicEntry.named_of_decodeSection (fun _ name nameError =>
        name = "<corrupt>" ∧ nameError = some ((Fault.outOfBounds overrun).marker "name")) decoded
      intro place _
      rw [lost]
      exact ⟨rfl, rfl⟩

/-- A string table of one name, and a symbol whose name is outside it. -/
def oneNameImage : Image :=
  Image.ofList (([0, 0x61, 0x62, 0] : List UInt8) ++
    (Symbol.struct .bits32).encode .little fun
      | .nameOffset => 9
      | _ => 0)

/-- A section of strings that is named by itself. -/
def oneNameSection : Section := { index := 0, nameOffset := 1, size := 4 }

/-- One section has its name, and another one and the symbol are marked. -/
theorem names_damaged_beside_one :
    (∀ header ∈
        Section.resolveNames [oneNameSection, { index := 1, nameOffset := 4 }] oneNameImage 0,
      ∃ name, header.name = some name ∧
        oneNameSection.NamesAt oneNameImage header.nameOffset name header.nameError) ∧
      oneNameSection.stringAt oneNameImage 1 = "ab" ∧
      ∃ symbol : Symbol,
        Symbol.decodeSection oneNameImage
            { index := 2, fileOffset := 4, size := 16, entrySize := 16 } (some oneNameSection)
            { addressClass := .bits32, byteOrder := .little } = .ok [symbol] ∧
          Marker.Replaces "BadStringOffset" symbol.name symbol.nameError := by
  obtain ⟨sections, parts⟩ := names_damaged_exactly oneNameImage
  have inside : oneNameSection.fileOffset + oneNameSection.size ≤ oneNameImage.size := by decide
  refine ⟨?_, by decide +kernel, ?_⟩
  · refine (sections _ 0 ?_ (Int.le_refl 0)).2.2.2 oneNameSection rfl inside
    refine List.forall_mem_cons.mpr ⟨⟨rfl, ?_⟩, List.forall_mem_singleton.mpr ⟨rfl, ?_⟩⟩ <;>
      intro name <;> cases name <;> decide
  · obtain ⟨symbol, decoded, place_eq⟩ : ∃ symbol : Symbol,
        Symbol.decodeSection oneNameImage
            { index := 2, fileOffset := 4, size := 16, entrySize := 16 } (some oneNameSection)
            { addressClass := .bits32, byteOrder := .little } = .ok [symbol] ∧
          symbol.nameOffset = 9 := ⟨_, rfl, rfl⟩
    have names := ((parts _ _).2.1 oneNameSection inside).1 _ decoded symbol List.mem_cons_self
    refine ⟨symbol, decoded, names.replaced_iff.mpr ?_⟩
    rw [place_eq]
    decide

end ElfInspect
