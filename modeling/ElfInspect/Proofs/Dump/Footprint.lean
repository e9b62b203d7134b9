import ElfInspect.Proofs.Dump.Pipeline

/-!
# What a dump depends on

Everything in a dump comes from ranges that the dump itself names: the file header, the two header
tables, the section of section names, and the sections of symbols and dynamic entries with the ones
to which they link.  An image of the same size with the same bytes there has the same dump, whatever
its other bytes are, and each part of the dump needs its own ranges only.
-/

namespace ElfInspect

namespace Image

/-- Two images have the same bytes on every one of some extents. -/
def AgreeOnAll (left right : Image) (extents : List Extent) : Prop :=
  ∀ extent ∈ extents, left.AgreeOn right extent

end Image

namespace Section

/-- The range of a section and that of the section to which it links. -/
def linkedExtents (sections : List Section) (header : Section) : List Extent :=
  header.extent :: (linked? sections header).toList.map extent

end Section

namespace Dump

/-- The traces that the decoding of a table has left. -/
def warningsOf (dump : Dump) (table : String) : List Marker :=
  dump.warnings.filter fun marker => marker.field = table

/-- The range of the section of section names. -/
def nameExtents (dump : Dump) : List Extent :=
  dump.sections[dump.header.sectionNameStringTableIndex.toNat]?.toList.map Section.extent

/-- The sections that hold symbols. -/
def symbolSections (dump : Dump) : List Section := dump.sections.filter SymbolTable.isHeld

/-- The ranges of the dynamic table. -/
def dynamicExtents (dump : Dump) : List Extent :=
  (DynamicEntry.findSection? dump.sections).toList.flatMap (Section.linkedExtents dump.sections)

/-- All ranges on which a dump depends. -/
def footprint (dump : Dump) : List Extent :=
  [FileHeader.extent dump.identity.addressClass, dump.header.programHeaders.extent,
      dump.header.sectionHeaders.extent] ++
    dump.nameExtents ++
    dump.symbolSections.flatMap (Section.linkedExtents dump.sections) ++
    dump.dynamicExtents

/-- What two images with the same section header table have in common in their dumps. -/
structure SectionsShared (left right : Image) (dump other : Dump) : Prop where
  sections_eq : other.sections.map Section.unnamed = dump.sections.map Section.unnamed
  warnings_eq : other.warningsOf "section_headers" = dump.warningsOf "section_headers"
  names_eq : left.AgreeOnAll right dump.nameExtents → other.sections = dump.sections
  /-- A symbol table is the same but for the name of its section. -/
  symbolTable_eq :
    ∀ (place : Nat) (header : Section), dump.symbolSections[place]? = some header →
      left.AgreeOnAll right (Section.linkedExtents dump.sections header) →
        ∃ table otherTable : SymbolTable,
          dump.symbolTables[place]? = some table ∧ other.symbolTables[place]? = some otherTable ∧
            otherTable.unnamed = table.unnamed
  dynamic_eq :
    left.AgreeOnAll right dump.dynamicExtents →
      other.dynamic = dump.dynamic ∧ other.warningsOf "dynamic" = dump.warningsOf "dynamic"

/-- What two images of one size with the same file header have in common in their dumps. -/
structure Shared (left right : Image) (dump other : Dump) : Prop where
  identity_eq : other.identity = dump.identity
  header_eq : other.header = dump.header
  segments_eq :
    left.AgreeOn right dump.header.programHeaders.extent →
      other.segments = dump.segments ∧
        other.warningsOf "program_headers" = dump.warningsOf "program_headers"
  sections_shared :
    left.AgreeOn right dump.header.sectionHeaders.extent → SectionsShared left right dump other
  dump_eq : left.AgreeOnAll right dump.footprint → other = dump

variable {left right : Image} {path : String} {identity : Identity} {header : FileHeader}

theorem agree_linked {sections : List Section} {found : Section}
    (agree : left.AgreeOnAll right (Section.linkedExtents sections found)) :
    left.AgreeOn right found.extent ∧
      ∀ linked ∈ Section.linked? sections found, left.AgreeOn right linked.extent := by
  constructor
  · exact agree found.extent List.mem_cons_self
  · intro linked linked_mem
    apply agree
    exact List.mem_cons_of_mem _ (List.mem_map_of_mem (Option.mem_toList.mpr linked_mem))

/-! ## One part after the other -/

theorem filter_trace? {α : Type} (field table : String) (outcome : Except Fault α) :
    ((Fault.trace? field outcome).toList.filter fun marker => marker.field = table) =
      if field = table then (Fault.trace? field outcome).toList else [] := by
  cases outcome with
  | ok value => simp [Fault.trace?]
  | error fault =>
      by_cases same_field : field = table <;> simp [Fault.trace?, Fault.marker, same_field]

theorem warningsOf_ofHeader (image : Image) (path : String) (identity : Identity)
    (header : FileHeader) :
    (ofHeader image path identity header).warningsOf "program_headers" =
        (Fault.trace? "program_headers" (Segment.decodeTable image header identity)).toList ∧
      (ofHeader image path identity header).warningsOf "section_headers" =
          (Fault.trace? "section_headers" (Section.decodeTable image header identity)).toList ∧
        (ofHeader image path identity header).warningsOf "dynamic" =
          (Fault.trace? "dynamic" (DynamicEntry.outcome image (namedSections image identity header)
            identity)).toList := by
  refine ⟨?_, ?_, ?_⟩ <;> simp [warningsOf, ofHeader, filter_trace?]

theorem namedSections_congr (offset_nonneg : 0 ≤ header.sectionHeaderOffset)
    (same_size : left.size = right.size)
    (same_table :
      Section.decodeTable left header identity = Section.decodeTable right header identity)
    (agree : left.AgreeOnAll right (ofHeader left path identity header).nameExtents) :
    namedSections left identity header = namedSections right identity header := by
  have decoded_nonneg : ∀ found ∈ Fault.entries (Section.decodeTable left header identity),
      0 ≤ found.fileOffset :=
    fun found member => Section.field_nonneg offset_nonneg member .fileOffset
  have decoded_agree : ∀ found ∈ (Fault.entries (Section.decodeTable left header identity))[
      header.sectionNameStringTableIndex.toNat]?, left.AgreeOn right found.extent := by
    rw [← map_unnamed_namedSections, List.getElem?_map]
    intro found found_mem
    obtain ⟨named, named_mem, rfl⟩ := Option.map_eq_some_iff.mp found_mem
    exact agree named.extent (List.mem_map_of_mem (Option.mem_toList.mpr named_mem))
  have same_names := Section.nameTable_congr decoded_nonneg same_size decoded_agree
  rw [namedSections, namedSections, ← same_table]
  exact Section.resolveNames_congr same_names

theorem symbolTable_congr {leftSections rightSections : List Section} (identity : Identity)
    (same_sections : leftSections.map Section.unnamed = rightSections.map Section.unnamed)
    (offset_nonneg : ∀ found ∈ leftSections, 0 ≤ found.fileOffset)
    (same_size : left.size = right.size) {place : Nat} {found : Section}
    (held : (leftSections.filter SymbolTable.isHeld)[place]? = some found)
    (agree : left.AgreeOnAll right (Section.linkedExtents leftSections found)) :
    ∃ table otherTable : SymbolTable,
      (SymbolTable.decodeAll left leftSections identity)[place]? = some table ∧
        (SymbolTable.decodeAll right rightSections identity)[place]? = some otherTable ∧
          otherTable.unnamed = table.unnamed := by
  have same_held := congrArg (·[place]?) (SymbolTable.map_unnamed_held same_sections)
  simp only [List.getElem?_map, held, Option.map_some] at same_held
  obtain ⟨other, other_held, same_header⟩ := Option.map_eq_some_iff.mp same_held.symm
  have found_mem := (List.mem_filter.mp (List.mem_of_getElem? held)).1
  obtain ⟨found_agree, linked_agree⟩ := agree_linked agree
  have same_outcome := SymbolTable.outcome_congr identity (offset_nonneg found found_mem)
    offset_nonneg same_size found_agree linked_agree
  refine ⟨SymbolTable.ofSection left leftSections identity found,
    SymbolTable.ofSection right rightSections identity other, ?_, ?_, ?_⟩
  · rw [SymbolTable.decodeAll, List.getElem?_map, held]
    rfl
  · rw [SymbolTable.decodeAll, List.getElem?_map, other_held]
    rfl
  · rw [SymbolTable.unnamed_ofSection right identity same_sections.symm same_header,
      SymbolTable.ofSection_eq, SymbolTable.ofSection_eq, same_outcome]

theorem symbolTables_congr {sections : List Section} (identity : Identity)
    (offset_nonneg : ∀ found ∈ sections, 0 ≤ found.fileOffset) (same_size : left.size = right.size)
    (agree : left.AgreeOnAll right
      ((sections.filter SymbolTable.isHeld).flatMap (Section.linkedExtents sections))) :
    SymbolTable.decodeAll left sections identity =
      SymbolTable.decodeAll right sections identity := by
  apply List.map_congr_left
  intro found held
  have found_mem := (List.mem_filter.mp held).1
  have found_agree : left.AgreeOnAll right (Section.linkedExtents sections found) :=
    fun extent member => agree extent (List.mem_flatMap.mpr ⟨found, held, member⟩)
  obtain ⟨own_agree, linked_agree⟩ := agree_linked found_agree
  rw [SymbolTable.ofSection_eq, SymbolTable.ofSection_eq,
    SymbolTable.outcome_congr identity (offset_nonneg found found_mem) offset_nonneg same_size
      own_agree linked_agree]

theorem dynamic_congr {sections : List Section} (identity : Identity)
    (offset_nonneg : ∀ found ∈ sections, 0 ≤ found.fileOffset) (same_size : left.size = right.size)
    (agree : left.AgreeOnAll right
      ((DynamicEntry.findSection? sections).toList.flatMap (Section.linkedExtents sections))) :
    DynamicEntry.outcome left sections identity = DynamicEntry.outcome right sections identity := by
  apply DynamicEntry.outcome_congr identity offset_nonneg same_size
  intro found found_eq
  apply agree_linked
  intro extent member
  exact agree extent (List.mem_flatMap.mpr ⟨found, Option.mem_toList.mpr found_eq, member⟩)

/-! ## The whole dump -/

theorem sectionsShared_of_same (offset_nonneg : 0 ≤ header.sectionHeaderOffset)
    (same_size : left.size = right.size)
    (same_table :
      Section.decodeTable left header identity = Section.decodeTable right header identity) :
    SectionsShared left right (ofHeader left path identity header)
      (ofHeader right path identity header) := by
  have same_sections := namedSections_unnamed same_table
  have section_nonneg : ∀ found ∈ namedSections left identity header, 0 ≤ found.fileOffset :=
    fileOffset_nonneg left identity offset_nonneg
  obtain ⟨_, left_sections, left_dynamic⟩ := warningsOf_ofHeader left path identity header
  obtain ⟨_, right_sections, right_dynamic⟩ := warningsOf_ofHeader right path identity header
  constructor
  · exact same_sections.symm
  · rw [left_sections, right_sections, same_table]
  · exact fun agree => (namedSections_congr offset_nonneg same_size same_table agree).symm
  · intro place found held agree
    exact symbolTable_congr identity same_sections section_nonneg same_size held agree
  · intro agree
    have same_outcome := dynamic_congr identity section_nonneg same_size agree
    rw [DynamicEntry.outcome_unnamed right identity same_sections] at same_outcome
    constructor
    · simp only [ofHeader, same_outcome]
    · rw [left_dynamic, right_dynamic, same_outcome]

theorem ofHeader_congr (header_nonneg : ∀ name, 0 ≤ header.field name)
    (same_size : left.size = right.size)
    (agree : left.AgreeOnAll right (ofHeader left path identity header).footprint) :
    ofHeader right path identity header = ofHeader left path identity header := by
  simp only [footprint, Image.AgreeOnAll, List.mem_append, List.mem_cons, List.not_mem_nil,
    or_false, or_imp, forall_and, forall_eq] at agree
  obtain ⟨⟨⟨⟨_, segments_agree, sections_agree⟩, names_agree⟩, symbols_agree⟩, dynamic_agree⟩ :=
    agree
  have offset_nonneg : 0 ≤ header.sectionHeaderOffset := header_nonneg .sectionHeaderOffset
  have section_nonneg : ∀ found ∈ namedSections left identity header, 0 ≤ found.fileOffset :=
    fileOffset_nonneg left identity offset_nonneg
  have same_segments := Segment.decodeTable_congr identity (header_nonneg .programHeaderOffset)
    same_size segments_agree
  have same_table := Section.decodeTable_congr identity offset_nonneg same_size sections_agree
  have same_sections := namedSections_congr offset_nonneg same_size same_table names_agree
  have same_symbols := symbolTables_congr identity section_nonneg same_size symbols_agree
  have same_dynamic := dynamic_congr identity section_nonneg same_size dynamic_agree
  simp only [ofHeader, ← same_segments, ← same_table, ← same_sections, ← same_symbols,
    ← same_dynamic, same_size]

/-- A dump, and each part of it, depends on the bytes of its own ranges alone. -/
theorem decode_of_agree_footprint {dump : Dump} (decoded : decode left path = .ok dump)
    (same_size : left.size = right.size)
    (header_agree : left.AgreeOn right (FileHeader.extent dump.identity.addressClass)) :
    ∃ other, decode right path = .ok other ∧ Shared left right dump other := by
  have inside := header_inside decoded
  obtain ⟨identity, header, rfl, right_decoded, header_nonneg⟩ :=
    decode_of_agree decoded header_agree (by omega)
  refine ⟨_, right_decoded, rfl, rfl, ?_, ?_, ?_⟩
  · intro agree
    have same_segments := Segment.decodeTable_congr identity (header_nonneg .programHeaderOffset)
      same_size agree
    constructor
    · simp only [ofHeader, same_segments]
    · rw [(warningsOf_ofHeader left path identity header).1,
        (warningsOf_ofHeader right path identity header).1, same_segments]
  · intro agree
    exact sectionsShared_of_same (header_nonneg .sectionHeaderOffset) same_size
      (Section.decodeTable_congr identity (header_nonneg .sectionHeaderOffset) same_size agree)
  · exact ofHeader_congr header_nonneg same_size

theorem small_agree (first second : UInt8) {extent : Extent}
    (inside : extent.start + extent.size ≤ 140) : (small first).AgreeOn (small second) extent := by
  have length_eq : smallBytes.length = 140 := rfl
  intro place _ place_lt
  rw [small, small, Image.toList_ofList, Image.toList_ofList,
    List.getElem?_append_left (by omega), List.getElem?_append_left (by omega)]

/-- The last byte of the small image plays no part. -/
theorem decode_small_last :
    ∃ dump, decode (small 0) "" = .ok dump ∧ decode (small 1) "" = .ok dump := by
  have stops : (match decode (small 0) "" with
      | .ok dump => dump.footprint.all fun extent => extent.start + extent.size ≤ 140
      | .error _ => false) = true := by
    decide +kernel
  cases decoded : decode (small 0) "" with
  | error rejection =>
      rw [decoded] at stops
      contradiction
  | ok dump =>
      rw [decoded, List.all_eq_true] at stops
      have agree : (small 0).AgreeOnAll (small 1) dump.footprint :=
        fun extent member => small_agree 0 1 (of_decide_eq_true (stops extent member))
      have same_size : (small 0).size = (small 1).size := by simp [small]
      obtain ⟨other, other_decoded, shared⟩ :=
        decode_of_agree_footprint decoded same_size (agree _ (by simp [footprint]))
      rw [shared.dump_eq agree] at other_decoded
      exact ⟨dump, rfl, other_decoded⟩

end Dump
end ElfInspect
