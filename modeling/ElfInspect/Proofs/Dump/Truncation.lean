import ElfInspect.Proofs.Dump.Pipeline
import Mathlib.Data.List.Forall2

/-!
# Dumps of shorter images

A file that was cut off loses data but gains none: whatever the dump of the shorter image still has
is what the dump of the whole image has at the same place, and what it lacks has left a marker that
tells of an overrun.
-/

namespace ElfInspect
namespace Dump

/-- A table of a dump has been given up as an overrun. -/
def Lost (dump : Dump) (table : String) : Prop :=
  ∃ marker ∈ dump.warnings, marker.kind = "OutOfBounds" ∧ marker.field = table

/-- What the dump of a shorter image has in common with that of the longer one, where the section
header table is not lost. -/
structure SectionsKept (short long : Dump) : Prop where
  sections_eq : short.sections.map Section.unnamed = long.sections.map Section.unnamed
  names_cut :
    short.sections = long.sections ∨
      ∀ header ∈ short.sections, Marker.Overran header.nameError
  symbolTables_cut : List.Forall₂ SymbolTable.CutFrom short.symbolTables long.symbolTables
  dynamic_cut :
    short.dynamic = long.dynamic ∨ (short.dynamic = [] ∧ short.Lost "dynamic") ∨
      DynamicEntry.NamesOverran short.dynamic long.dynamic
  segmentSections_eq :
    short.segments = long.segments → short.segmentSections = long.segmentSections

/-- What the dump of a shorter image has in common with that of the longer one. -/
structure CutFrom (short long : Dump) : Prop where
  identity_eq : short.identity = long.identity
  header_eq : short.header = long.header
  segments_cut :
    short.segments = long.segments ∨ (short.segments = [] ∧ short.Lost "program_headers")
  sections_cut :
    (short.sections = [] ∧ short.Lost "section_headers") ∨ short.SectionsKept long

variable {short long : Image} {path : String} {identity : Identity} {header : FileHeader}

/-! ## One table after the other -/

theorem lost_of_warning {dump : Dump} {table : String} (overrun : Overrun)
    (member : (Fault.outOfBounds overrun).marker table ∈ dump.warnings) : dump.Lost table :=
  ⟨_, member, rfl, rfl⟩

theorem segments_cut (offset_nonneg : 0 ≤ header.programHeaderOffset)
    (cut : short.toList <+: long.toList) :
    (ofHeader short path identity header).segments =
        (ofHeader long path identity header).segments ∨
      ((ofHeader short path identity header).segments = [] ∧
        (ofHeader short path identity header).Lost "program_headers") := by
  rcases Segment.decodeTable_cut identity offset_nonneg cut with same | ⟨overrun, lost⟩
  · left
    simp only [ofHeader, same]
  · right
    constructor
    · simp only [ofHeader, lost, Fault.entries]
    · apply lost_of_warning overrun
      simp [ofHeader, lost, Fault.trace?]

section Kept

variable {shortSections longSections : List Section}

theorem namedSections_cut (offset_nonneg : 0 ≤ header.sectionHeaderOffset)
    (cut : short.toList <+: long.toList)
    (same_table :
      Section.decodeTable short header identity = Section.decodeTable long header identity) :
    namedSections short identity header = namedSections long identity header ∨
      ∀ found ∈ namedSections short identity header, Marker.Overran found.nameError := by
  have decoded_nonneg : ∀ found ∈ Fault.entries (Section.decodeTable short header identity),
      0 ≤ found.fileOffset :=
    fun found member => Section.field_nonneg offset_nonneg member .fileOffset
  rw [namedSections, namedSections, ← same_table]
  rcases Section.nameTable_cut decoded_nonneg cut with same_names | ⟨overrun, lost⟩
  · exact .inl (Section.resolveNames_congr same_names)
  · exact .inr fun found member => Section.overran_resolveNames lost member

theorem symbolTables_cut (cut : short.toList <+: long.toList) (identity : Identity)
    (same_sections : shortSections.map Section.unnamed = longSections.map Section.unnamed)
    (offset_nonneg : ∀ found ∈ shortSections, 0 ≤ found.fileOffset) :
    List.Forall₂ SymbolTable.CutFrom (SymbolTable.decodeAll short shortSections identity)
      (SymbolTable.decodeAll long longSections identity) := by
  have held_nonneg : ∀ found ∈ shortSections.filter SymbolTable.isHeld, 0 ≤ found.fileOffset :=
    fun found member => offset_nonneg found (List.mem_filter.mp member).1
  have same_held : List.Forall₂ (fun left right => left.unnamed = right.unnamed)
      (shortSections.filter SymbolTable.isHeld) (longSections.filter SymbolTable.isHeld) := by
    rw [← List.forall₂_map_right_iff, ← List.forall₂_map_left_iff, List.forall₂_eq_eq_eq]
    exact SymbolTable.map_unnamed_held same_sections
  rw [SymbolTable.decodeAll, SymbolTable.decodeAll, List.forall₂_map_left_iff,
    List.forall₂_map_right_iff]
  apply ((List.forall₂_and_left _ _).mpr ⟨held_nonneg, same_held⟩).imp
  rintro shortHeader longHeader ⟨header_nonneg, same_header⟩
  exact SymbolTable.ofSection_cut identity same_sections same_header header_nonneg offset_nonneg cut

theorem segmentSections_eq (segments : List Segment)
    (same_sections : shortSections.map Section.unnamed = longSections.map Section.unnamed) :
    Segment.mapSections segments shortSections = Segment.mapSections segments longSections := by
  apply List.map_congr_left
  intro segment _
  rw [Segment.members_unnamed, same_sections, ← Segment.members_unnamed]

end Kept

theorem dynamic_cut (offset_nonneg : 0 ≤ header.sectionHeaderOffset)
    (cut : short.toList <+: long.toList)
    (same_table :
      Section.decodeTable short header identity = Section.decodeTable long header identity) :
    (ofHeader short path identity header).dynamic =
        (ofHeader long path identity header).dynamic ∨
      ((ofHeader short path identity header).dynamic = [] ∧
          (ofHeader short path identity header).Lost "dynamic") ∨
        DynamicEntry.NamesOverran (ofHeader short path identity header).dynamic
          (ofHeader long path identity header).dynamic := by
  have section_nonneg := fileOffset_nonneg short identity offset_nonneg
  have outcome := DynamicEntry.outcome_cut identity section_nonneg cut
  rw [DynamicEntry.outcome_unnamed long identity (namedSections_unnamed same_table)] at outcome
  rcases outcome with (same | ⟨overrun, lost⟩) |
    ⟨shortEntries, longEntries, short_eq, long_eq, names⟩
  · left
    simp only [ofHeader, same]
  · right
    left
    constructor
    · simp only [ofHeader, lost, Fault.entries]
    · apply lost_of_warning overrun
      simp [ofHeader, lost, Fault.trace?]
  · right
    right
    simpa only [ofHeader, short_eq, long_eq, Fault.entries] using names

/-! ## The whole dump -/

theorem sectionsKept_of_same (offset_nonneg : 0 ≤ header.sectionHeaderOffset)
    (cut : short.toList <+: long.toList)
    (same_table :
      Section.decodeTable short header identity = Section.decodeTable long header identity) :
    (ofHeader short path identity header).SectionsKept (ofHeader long path identity header) := by
  have same_sections := namedSections_unnamed same_table
  constructor
  · exact same_sections
  · exact namedSections_cut offset_nonneg cut same_table
  · exact symbolTables_cut cut identity same_sections
      (fileOffset_nonneg short identity offset_nonneg)
  · exact dynamic_cut offset_nonneg cut same_table
  · intro same_segments
    exact (congrArg (Segment.mapSections · _) same_segments).trans
      (segmentSections_eq _ same_sections)

theorem sections_cut (offset_nonneg : 0 ≤ header.sectionHeaderOffset)
    (cut : short.toList <+: long.toList) :
    ((ofHeader short path identity header).sections = [] ∧
        (ofHeader short path identity header).Lost "section_headers") ∨
      (ofHeader short path identity header).SectionsKept (ofHeader long path identity header) := by
  rcases Section.decodeTable_cut identity offset_nonneg cut with same | ⟨overrun, lost⟩
  · exact .inr (sectionsKept_of_same offset_nonneg cut same)
  · left
    constructor
    · simp [ofHeader, namedSections, lost, Fault.entries, Section.resolveNames_eq]
    · apply lost_of_warning overrun
      simp [ofHeader, lost, Fault.trace?]

/-- Cutting an image off never makes its dump wrong, only poorer. -/
theorem decode_cut {dump : Dump} (cut : short.toList <+: long.toList)
    (decoded : decode short path = .ok dump) :
    ∃ full, decode long path = .ok full ∧ dump.CutFrom full := by
  have inside := header_inside decoded
  have size_le := Image.size_le_of_cut cut
  have header_agree : short.AgreeOn long (FileHeader.extent dump.identity.addressClass) :=
    Image.agreeOn_of_cut cut (by simpa [FileHeader.extent] using inside)
  obtain ⟨identity, header, rfl, long_decoded, header_nonneg⟩ :=
    decode_of_agree decoded header_agree (by omega)
  refine ⟨_, long_decoded, rfl, rfl, ?_, ?_⟩
  · exact segments_cut (header_nonneg .programHeaderOffset) cut
  · exact sections_cut (header_nonneg .sectionHeaderOffset) cut

/-- The small image cut off inside its symbol. -/
theorem decode_cut_small :
    ∃ dump full,
      decode (Image.ofList ((small 0).toList.take 130)) "" = .ok dump ∧
        decode (small 0) "" = .ok full ∧ dump.CutFrom full := by
  have cut : (Image.ofList ((small 0).toList.take 130)).toList <+: (small 0).toList := by
    rw [Image.toList_ofList]
    exact List.take_prefix 130 _
  have decodes : (decode (Image.ofList ((small 0).toList.take 130)) "").isOk = true := by
    decide +kernel
  cases decoded : decode (Image.ofList ((small 0).toList.take 130)) "" with
  | error rejection =>
      rw [decoded] at decodes
      exact absurd decodes Bool.false_ne_true
  | ok dump =>
      obtain ⟨full, full_decoded, cut_from⟩ := decode_cut cut decoded
      exact ⟨dump, full, rfl, full_decoded, cut_from⟩

end Dump
end ElfInspect
