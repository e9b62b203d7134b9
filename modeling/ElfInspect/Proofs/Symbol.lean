import ElfInspect.Proofs.Names
import ElfInspect.Symbol

/-!
# What decoding a symbol table gives

The records of a symbol table lie inside the range of its section, and its names inside the range of
the section to which it links.  The names of sections play no part.
-/

namespace ElfInspect

namespace Symbol

/-- The members of a symbol record. -/
def struct : AddressClass → Struct FieldName
  | .bits32 =>
      { members :=
          [(.nameOffset, 4), (.value, 4), (.size, 4), (.info, 1), (.other, 1), (.sectionIndex, 2)]
        members_ne_nil := by simp
        supported := by decide
        nodup := by decide
        complete := by
          intro name
          cases name <;> simp }
  | .bits64 =>
      { members :=
          [(.nameOffset, 4), (.info, 1), (.other, 1), (.sectionIndex, 2), (.value, 8), (.size, 8)]
        members_ne_nil := by simp
        supported := by decide
        nodup := by decide
        complete := by
          intro name
          cases name <;> simp }

theorem layout_eq (addressClass : AddressClass) :
    layout addressClass = (struct addressClass).layout 0 := by
  cases addressClass <;> rfl

theorem layout_sound (addressClass : AddressClass) : (layout addressClass).Sound :=
  layout_eq addressClass ▸ Struct.layout_sound

/-- A symbol without its name. -/
def unnamed (symbol : Symbol) : Symbol := { symbol with name := "", nameError := none }

/-- What keeps the symbols of a section from being decoded. -/
def fault? (header : Section) (identity : Identity) (length : Int) : Option Fault :=
  Table.fault? ("symbol table section " ++ toString header.index)
    (layout identity.addressClass).size length header.fileOffset header.entrySize
    (header.size / header.entrySize)

/-- The range of the whole records of a section. -/
def wholeRecords (header : Section) : Extent :=
  { start := header.fileOffset, size := header.entrySize * (header.size / header.entrySize) }

/-- The values of the fields of each record of a section. -/
def values (image : Image) (header : Section) (identity : Identity) : List (FieldName → Int) :=
  Table.values (layout identity.addressClass) image identity.byteOrder header.fileOffset
    header.entrySize (header.size / header.entrySize)

/-- The whole records of a section are read exactly when they have room and lie inside. -/
theorem fault?_eq_none_iff {header : Section} {identity : Identity} {length : Int} :
    fault? header identity length = none ↔
      (struct identity.addressClass).size ≤ header.entrySize ∧
        header.fileOffset + header.entrySize * (header.size / header.entrySize) ≤ length := by
  rw [fault?, layout_eq, Table.fault?_layout_eq_none_iff]

section Names

variable {left right : Except Fault StringTable}

theorem lookupName_congr (same : StringTable.SameNames left right) :
    lookupName left = lookupName right := by
  funext nameOffset
  unfold StringTable.SameNames at same
  cases left with
  | error fault =>
      cases right with
      | error other =>
          obtain rfl := Except.error.inj same
          rfl
      | ok table => contradiction
  | ok table =>
      cases right with
      | error fault => contradiction
      | ok other =>
          have same_lookup := congrFun (Except.ok.inj same) nameOffset
          simp only [lookupName, same_lookup]

theorem ofFields_congr (same : StringTable.SameNames left right) (index : Int) :
    ofFields index left = ofFields index right := by
  funext value
  rw [ofFields, ofFields, lookupName_congr same]

theorem kind_of_linkedStrings {image : Image} {link : Int} {linked : Option Section}
    {fault : Fault} (failed : linkedStrings image link linked = .error fault) :
    fault.kind = "OutOfBounds" := by
  cases linked with
  | none =>
      rw [← Except.error.inj failed]
      rfl
  | some header => exact StringTable.kind_of_ofSection failed

theorem kind_of_lookupName {image : Image} {link nameOffset : Int} {linked : Option Section}
    {marker : Marker}
    (marked : (lookupName (linkedStrings image link linked) nameOffset).2 = some marker) :
    marker.kind ∈ Fault.recoverable := by
  unfold lookupName at marked
  split at marked
  · rename_i fault failed
    rw [← Option.some.inj marked, Fault.marker, kind_of_linkedStrings failed]
    simp [Fault.recoverable]
  · split at marked
    · contradiction
    · rename_i fault failed
      rw [← Option.some.inj marked, Fault.marker, StringTable.kind_of_lookup failed]
      simp [Fault.recoverable]

/-- But for their names, symbols do not depend on a string table. -/
theorem map_unnamed_ofFields (left right : Except Fault StringTable)
    (values : List (FieldName → Int)) :
    (values.mapIdx fun index value => ofFields index left value).map unnamed =
      (values.mapIdx fun index value => ofFields index right value).map unnamed := by
  apply List.ext_getElem?
  intro place
  simp only [List.getElem?_map, List.getElem?_mapIdx, Option.map_map]
  rfl

end Names

variable {header : Section} {identity : Identity}

/-- The outcome of decoding the symbols of a section. -/
theorem decodeSection_eq (image : Image) (linked : Option Section) (identity : Identity)
    (offset_nonneg : 0 ≤ header.fileOffset) :
    decodeSection image header linked identity =
      Fault.outcome (fault? header identity image.size)
        ((values image header identity).mapIdx fun index value =>
          ofFields index (linkedStrings image header.link linked) value) := by
  rw [decodeSection, fault?]
  simp only [Table.check_bind]
  cases found : Table.fault? ("symbol table section " ++ toString header.index)
      (layout identity.addressClass).size image.size header.fileOffset header.entrySize
      (header.size / header.entrySize) with
  | some fault => rfl
  | none =>
      simp only [Fault.outcome, values]
      have reads : ∀ index < (header.size / header.entrySize).toNat,
          (do
            let record ← (layout identity.addressClass).read image identity.byteOrder
              (header.fileOffset + index * header.entrySize)
            return ofFields index (linkedStrings image header.link linked) record.get) =
            (.ok (ofFields index (linkedStrings image header.link linked)
              ((layout identity.addressClass).valueAt image identity.byteOrder
                (header.fileOffset + index * header.entrySize))) : Except Fault Symbol) := by
        intro index index_lt
        rw [(Table.read_entry image identity.byteOrder (layout_sound _) offset_nonneg found
          index_lt).2, ← Layout.get_fill]
        rfl
      rw [Table.collect_of_reads reads, Table.mapIdx_values]

/-- The whole records of a section lie inside its range. -/
theorem wholeRecords_agree {left right : Image} (size_ne : header.entrySize ≠ 0)
    (agree : left.AgreeOn right header.extent) : left.AgreeOn right (wholeRecords header) := by
  have whole_entries : header.entrySize * (header.size / header.entrySize) ≤ header.size :=
    Int.mul_ediv_self_le size_ne
  apply agree.mono
  · exact Int.le_refl header.fileOffset
  · simp only [wholeRecords, Section.extent]
    omega

theorem values_congr {left right : Image} (offset_nonneg : 0 ≤ header.fileOffset)
    {length : Int} (no_fault : fault? header identity length = none)
    (agree : left.AgreeOn right (wholeRecords header)) :
    values left header identity = values right header identity := by
  obtain ⟨_, size_le, _⟩ := Table.fault?_eq_none_iff.mp no_fault
  exact Table.values_congr (layout_sound _) offset_nonneg size_le agree

theorem kind_of_decodeSection {image : Image} {linked : Option Section} {fault : Fault}
    (offset_nonneg : 0 ≤ header.fileOffset)
    (failed : decodeSection image header linked identity = .error fault) :
    fault.kind ∈ Fault.recoverable := by
  rw [decodeSection_eq image linked identity offset_nonneg] at failed
  exact Table.kind_of_fault? (Fault.eq_some_of_outcome failed)

theorem kind_of_nameError {image : Image} {linked : Option Section}
    (offset_nonneg : 0 ≤ header.fileOffset) {symbol : Symbol} {marker : Marker}
    (member : symbol ∈ Fault.entries (decodeSection image header linked identity))
    (marked : symbol.nameError = some marker) : marker.kind ∈ Fault.recoverable := by
  rw [decodeSection_eq image linked identity offset_nonneg] at member
  cases fault_eq : fault? header identity image.size with
  | some fault =>
      rw [fault_eq] at member
      contradiction
  | none =>
      rw [fault_eq] at member
      obtain ⟨index, inside, rfl⟩ := List.mem_mapIdx.mp member
      exact kind_of_lookupName marked

theorem linkedStrings_congr {left right : Image} (link : Int) {linked : Option Section}
    (offset_nonneg : ∀ found ∈ linked, 0 ≤ found.fileOffset) (same_size : left.size = right.size)
    (agree : ∀ found ∈ linked, left.AgreeOn right found.extent) :
    StringTable.SameNames (linkedStrings left link linked) (linkedStrings right link linked) := by
  cases linked with
  | none => rfl
  | some found =>
      exact StringTable.sameNames_of_agree same_size (offset_nonneg found rfl) (agree found rfl)

theorem linkedStrings_cut {short long : Image} (link : Int) {linked : Option Section}
    (offset_nonneg : ∀ found ∈ linked, 0 ≤ found.fileOffset)
    (cut : short.toList <+: long.toList) :
    StringTable.CutFrom (linkedStrings short link linked) (linkedStrings long link linked) := by
  cases linked with
  | none => exact .inl rfl
  | some found => exact StringTable.ofSection_cut cut (offset_nonneg found rfl)

/-- The symbols of a section depend on its range and that of the linked section alone. -/
theorem decodeSection_congr {left right : Image} {linked : Option Section}
    (offset_nonneg : 0 ≤ header.fileOffset)
    (linked_nonneg : ∀ found ∈ linked, 0 ≤ found.fileOffset) (same_size : left.size = right.size)
    (agree : left.AgreeOn right header.extent)
    (linked_agree : ∀ found ∈ linked, left.AgreeOn right found.extent) :
    decodeSection left header linked identity = decodeSection right header linked identity := by
  rw [decodeSection_eq left linked identity offset_nonneg,
    decodeSection_eq right linked identity offset_nonneg, same_size]
  cases no_fault : fault? header identity right.size with
  | some fault => rfl
  | none =>
      have size_ne := (Table.fault?_eq_none_iff.mp no_fault).1
      have same_names := linkedStrings_congr header.link linked_nonneg same_size linked_agree
      simp only [values_congr offset_nonneg no_fault (wholeRecords_agree size_ne agree),
        ofFields_congr same_names]

/-- A list of symbols has the fields of another one, each name overrunning the image. -/
def NamesOverran (short long : List Symbol) : Prop :=
  short.map unnamed = long.map unnamed ∧ ∀ symbol ∈ short, Marker.Overran symbol.nameError

/-- The symbols of a shorter image are those of the longer one, perhaps without their names, or
their table overruns the image. -/
theorem decodeSection_cut {short long : Image} (identity : Identity) {linked : Option Section}
    (offset_nonneg : 0 ≤ header.fileOffset)
    (linked_nonneg : ∀ found ∈ linked, 0 ≤ found.fileOffset)
    (cut : short.toList <+: long.toList) :
    Fault.CutFrom (decodeSection short header linked identity)
        (decodeSection long header linked identity) ∨
      ∃ shortSymbols longSymbols,
        decodeSection short header linked identity = .ok shortSymbols ∧
          decodeSection long header linked identity = .ok longSymbols ∧
            NamesOverran shortSymbols longSymbols := by
  have size_le : (short.size : Int) ≤ long.size := by
    exact_mod_cast Image.size_le_of_cut cut
  rw [decodeSection_eq short linked identity offset_nonneg,
    decodeSection_eq long linked identity offset_nonneg]
  rcases Table.fault?_cut size_le with same | ⟨overrun, lost⟩
  · rw [← fault?, ← fault?] at same
    rw [← same]
    cases no_fault : fault? header identity short.size with
    | some fault => exact .inl (.inl rfl)
    | none =>
        have inside := (Table.fault?_eq_none_iff.mp no_fault).2.2
        have same_values :=
          values_congr offset_nonneg no_fault (Image.agreeOn_of_cut cut inside)
        rw [same_values]
        rcases linkedStrings_cut header.link linked_nonneg cut with same_names | ⟨overrun, lost⟩
        · simp only [ofFields_congr same_names]
          exact .inl (.inl rfl)
        · right
          refine ⟨_, _, rfl, rfl, map_unnamed_ofFields _ _ _, ?_⟩
          intro symbol member
          obtain ⟨index, index_lt, rfl⟩ := List.mem_mapIdx.mp member
          rw [lost]
          exact ⟨_, rfl, rfl⟩
  · left
    right
    rw [fault?, lost]
    exact ⟨overrun, rfl⟩

theorem decodeSection_unnamed (image : Image) (header : Section) (linked : Option Section)
    (identity : Identity) :
    decodeSection image header linked identity =
      decodeSection image header.unnamed (linked.map Section.unnamed) identity := by
  cases linked <;> rfl

end Symbol

namespace SymbolTable

/-- A symbol table without the name of its section. -/
def unnamed (table : SymbolTable) : SymbolTable := { table with sectionName := "" }

theorem isHeld_eq :
    isHeld = fun header =>
      decide
        (header.sectionType = SectionType.symtab ∨ header.sectionType = SectionType.dynsym) := by
  funext header
  simp [isHeld]

section Decoding

variable (image : Image) (sections : List Section) (identity : Identity) (header : Section)

/-- The outcome of decoding the symbols of a section. -/
def outcome : Except Fault (List Symbol) :=
  Symbol.decodeSection image header (Section.linked? sections header) identity

theorem ofSection_eq :
    ofSection image sections identity header =
      { sectionIndex := header.index
        sectionName := header.displayName
        sectionType := header.sectionType
        symbols := Fault.entries (outcome image sections identity header)
        error := Fault.trace? "symbols" (outcome image sections identity header) } := by
  rw [ofSection, outcome]
  cases Symbol.decodeSection image header (Section.linked? sections header) identity <;> rfl

end Decoding

variable {leftSections rightSections : List Section} {leftHeader rightHeader : Section}

/-- The symbols of a section can be told without the names of sections. -/
theorem outcome_unnamed (image : Image) (identity : Identity)
    (same_sections : leftSections.map Section.unnamed = rightSections.map Section.unnamed)
    (same_header : leftHeader.unnamed = rightHeader.unnamed) :
    outcome image leftSections identity leftHeader =
      outcome image rightSections identity rightHeader := by
  have same_linked : (Section.linked? leftSections leftHeader).map Section.unnamed =
      (Section.linked? rightSections rightHeader).map Section.unnamed := by
    rw [Section.map_unnamed_linked?, Section.map_unnamed_linked?, same_sections, same_header]
  rw [outcome, outcome, Symbol.decodeSection_unnamed, same_linked, same_header,
    ← Symbol.decodeSection_unnamed]

/-- The symbols of a section depend on its range and that of the linked section alone. -/
theorem outcome_congr {left right : Image} {sections : List Section} {header : Section}
    (identity : Identity) (offset_nonneg : 0 ≤ header.fileOffset)
    (linked_nonneg : ∀ found ∈ sections, 0 ≤ found.fileOffset) (same_size : left.size = right.size)
    (agree : left.AgreeOn right header.extent)
    (linked_agree : ∀ found ∈ Section.linked? sections header, left.AgreeOn right found.extent) :
    outcome left sections identity header = outcome right sections identity header :=
  Symbol.decodeSection_congr offset_nonneg
    (fun found linked => linked_nonneg found (Section.mem_of_linked? linked)) same_size agree
    linked_agree

/-- But for the name of its section, a symbol table can be told without the names of sections. -/
theorem unnamed_ofSection (image : Image) (identity : Identity)
    (same_sections : leftSections.map Section.unnamed = rightSections.map Section.unnamed)
    (same_header : leftHeader.unnamed = rightHeader.unnamed) :
    (ofSection image leftSections identity leftHeader).unnamed =
      (ofSection image rightSections identity rightHeader).unnamed := by
  have same_index := Section.index_eq_of_unnamed same_header
  have same_type : leftHeader.sectionType = rightHeader.sectionType :=
    congrFun (Section.field_eq_of_unnamed same_header) .sectionType
  rw [ofSection_eq, ofSection_eq, outcome_unnamed image identity same_sections same_header,
    same_index, same_type]
  rfl

/-- Whether a section holds symbols does not depend on names. -/
theorem map_unnamed_held
    (same_sections : leftSections.map Section.unnamed = rightSections.map Section.unnamed) :
    (leftSections.filter isHeld).map Section.unnamed =
      (rightSections.filter isHeld).map Section.unnamed := by
  have held : isHeld = isHeld ∘ Section.unnamed := rfl
  rw [held, ← List.filter_map, ← List.filter_map, same_sections]

/-- What a symbol table of a shorter image has in common with that of the longer one. -/
structure CutFrom (short long : SymbolTable) : Prop where
  sectionIndex_eq : short.sectionIndex = long.sectionIndex
  sectionType_eq : short.sectionType = long.sectionType
  symbols_cut :
    (short.symbols = long.symbols ∧ short.error = long.error) ∨
      (short.symbols = [] ∧ Marker.Overran short.error) ∨
        (short.error = long.error ∧ Symbol.NamesOverran short.symbols long.symbols)

theorem ofSection_cut {short long : Image} (identity : Identity)
    (same_sections : leftSections.map Section.unnamed = rightSections.map Section.unnamed)
    (same_header : leftHeader.unnamed = rightHeader.unnamed)
    (offset_nonneg : 0 ≤ leftHeader.fileOffset)
    (linked_nonneg : ∀ found ∈ leftSections, 0 ≤ found.fileOffset)
    (cut : short.toList <+: long.toList) :
    CutFrom (ofSection short leftSections identity leftHeader)
      (ofSection long rightSections identity rightHeader) := by
  have symbols_cut := Symbol.decodeSection_cut identity offset_nonneg
    (fun found (linked : found ∈ Section.linked? leftSections leftHeader) =>
      linked_nonneg found (Section.mem_of_linked? linked)) cut
  rw [← outcome, ← outcome, outcome_unnamed long identity same_sections same_header]
    at symbols_cut
  rw [ofSection_eq, ofSection_eq]
  constructor
  · exact Section.index_eq_of_unnamed same_header
  · exact congrFun (Section.field_eq_of_unnamed same_header) .sectionType
  · rcases symbols_cut with (same | ⟨overrun, lost⟩) |
      ⟨shortSymbols, longSymbols, short_eq, long_eq, names⟩
    · exact .inl ⟨by rw [same], by rw [same]⟩
    · rw [lost]
      exact .inr (.inl ⟨rfl, _, rfl, rfl⟩)
    · rw [short_eq, long_eq]
      exact .inr (.inr ⟨rfl, names⟩)

end SymbolTable
end ElfInspect
