import ElfInspect.Proofs.Dump.Pipeline
import ElfInspect.Proofs.Symbol.RoundTrip

/-!
# What holds of every dump

However damaged an image is, the parts of its dump fit together: entries are numbered by their
place, a table is complete or given up with a warning, and whatever refers to a section refers to
one that is there.
-/

namespace ElfInspect

namespace Dump

/-- The tables that have been given up, in the order of the warnings. -/
def warnedTables (dump : Dump) : List String := dump.warnings.map Marker.field

/-- A table has all its entries and no warning, or no entries and one warning. -/
def KeptOrGivenUp (dump : Dump) (table : String) (length : Nat) (count : Int) : Prop :=
  ((length : Int) = count ∧ table ∉ dump.warnedTables) ∨
    (length = 0 ∧ dump.warnedTables.count table = 1)

/-- The parts of a dump fit together. -/
structure Consistent (dump : Dump) : Prop where
  segment_index : ∀ (place : Nat) (segment : Segment),
    dump.segments[place]? = some segment → segment.index = place
  section_index : ∀ (place : Nat) (header : Section),
    dump.sections[place]? = some header → header.index = place
  symbol_index : ∀ table ∈ dump.symbolTables, ∀ (place : Nat) (symbol : Symbol),
    table.symbols[place]? = some symbol → symbol.index = place
  segments_kept :
    dump.KeptOrGivenUp "program_headers" dump.segments.length dump.header.programHeaderCount
  sections_kept :
    dump.KeptOrGivenUp "section_headers" dump.sections.length dump.header.sectionHeaderCount
  length_segmentSections : dump.segmentSections.length = dump.segments.length
  row_increasing : ∀ row ∈ dump.segmentSections, row.Pairwise (· < ·)
  row_section : ∀ row ∈ dump.segmentSections, ∀ index ∈ row,
    ∃ (place : Nat) (header : Section), index = place ∧ dump.sections[place]? = some header ∧
      header.sectionType ≠ SectionType.null
  symbolTables_eq :
    dump.symbolTables.map (fun table =>
        (table.sectionIndex, table.sectionType, table.sectionName)) =
      (dump.sections.filter fun header =>
          header.sectionType = SectionType.symtab ∨ header.sectionType = SectionType.dynsym).map
        fun header => (header.index, header.sectionType, header.displayName)
  symbols_of_error : ∀ table ∈ dump.symbolTables, table.error ≠ none → table.symbols = []
  warnedTables_sublist :
    dump.warnedTables.Sublist ["program_headers", "section_headers", "dynamic"]
  warned_once : "section_headers" ∈ dump.warnedTables → "dynamic" ∉ dump.warnedTables
  section_named : ∀ header ∈ dump.sections, header.name ≠ none
  section_placeholder : ∀ header ∈ dump.sections,
    header.nameError ≠ none → header.name = some "<corrupt>"
  symbol_placeholder : ∀ table ∈ dump.symbolTables, ∀ symbol ∈ table.symbols,
    symbol.nameError ≠ none → symbol.name = "<corrupt>"
  null_last : ∀ entry ∈ dump.dynamic.dropLast, entry.tag ≠ DynamicTag.null
  entry_named : ∀ entry ∈ dump.dynamic, entry.name ≠ none ↔ entry.tag ∈ [1, 14, 15, 29]
  entry_placeholder : ∀ entry ∈ dump.dynamic,
    entry.nameError ≠ none → entry.name = some "<corrupt>"
  dynamic_of_warned : "dynamic" ∈ dump.warnedTables → dump.dynamic = []

end Dump

/-! ## Header tables -/

theorem Segment.entries_of_decodeTable {image : Image} {header : FileHeader} {identity : Identity}
    {segments : List Segment} (header_nonneg : ∀ name, 0 ≤ header.field name)
    (decoded : decodeTable image header identity = .ok segments) :
    (segments.length : Int) = header.programHeaderCount ∧
      ∀ (place : Nat) (segment : Segment), segments[place]? = some segment →
        segment.index = place := by
  obtain ⟨length_eq, built⟩ := HeaderTable.entries_of_decode (layout_sound _)
    (header_nonneg .programHeaderOffset) (header_nonneg .programHeaderCount) decoded
  refine ⟨length_eq, ?_⟩
  intro place segment found
  obtain ⟨value, rfl⟩ := built place segment found
  rfl

namespace Section

theorem entries_of_decodeTable {image : Image} {header : FileHeader} {identity : Identity}
    {sections : List Section} (header_nonneg : ∀ name, 0 ≤ header.field name)
    (decoded : decodeTable image header identity = .ok sections) :
    (sections.length : Int) = header.sectionHeaderCount ∧
      ∀ (place : Nat) (found : Section), sections[place]? = some found →
        found.index = place := by
  obtain ⟨length_eq, built⟩ := HeaderTable.entries_of_decode (layout_sound _)
    (header_nonneg .sectionHeaderOffset) (header_nonneg .sectionHeaderCount) decoded
  refine ⟨length_eq, ?_⟩
  intro place found found_eq
  obtain ⟨value, rfl⟩ := built place found found_eq
  rfl

/-- A section that had no marker is named, by the placeholder if it gets one. -/
theorem named_nameBy (find : Except Fault (Int → Except Fault String)) {header : Section}
    (fresh : header.nameError = none) :
    (header.nameBy find).name ≠ none ∧
      ((header.nameBy find).nameError ≠ none → (header.nameBy find).name = some "<corrupt>") := by
  unfold nameBy
  split
  · exact ⟨Option.some_ne_none _, fun _ => rfl⟩
  · split
    · exact ⟨Option.some_ne_none _, fun marked => absurd fresh marked⟩
    · exact ⟨Option.some_ne_none _, fun _ => rfl⟩

end Section

/-! ## Rows of sections -/

namespace Segment

variable {sections : List Section}

/-- Where sections are numbered by their place, a row lists them in increasing order. -/
theorem members_increasing (segment : Segment)
    (numbered : ∀ (place : Nat) (header : Section), sections[place]? = some header →
      header.index = place) :
    (members sections segment).Pairwise (· < ·) := by
  have all_increasing : (sections.map Section.index).Pairwise (· < ·) := by
    rw [List.pairwise_map, List.pairwise_iff_getElem]
    intro earlier later earlier_lt later_lt earlier_lt_later
    rw [numbered earlier _ (List.getElem?_eq_getElem earlier_lt),
      numbered later _ (List.getElem?_eq_getElem later_lt)]
    exact Int.ofNat_lt.mpr earlier_lt_later
  exact all_increasing.sublist (List.filter_sublist.map Section.index)

theorem section_of_members {segment : Segment}
    (numbered : ∀ (place : Nat) (header : Section), sections[place]? = some header →
      header.index = place) {index : Int} (member : index ∈ members sections segment) :
    ∃ (place : Nat) (header : Section), index = place ∧ sections[place]? = some header ∧
      header.sectionType ≠ SectionType.null := by
  obtain ⟨header, header_mem, rfl⟩ := List.mem_map.mp member
  obtain ⟨section_mem, inside⟩ := List.mem_filter.mp header_mem
  obtain ⟨place, found⟩ := List.mem_iff_getElem?.mp section_mem
  have not_null : header.sectionType ≠ SectionType.null := by
    rw [Bool.and_eq_true] at inside
    exact of_decide_eq_true inside.1
  exact ⟨place, header, numbered place header found, found, not_null⟩

end Segment

/-! ## Symbol tables -/

namespace Symbol

theorem placeholder_of_lookupName {strings : Except Fault StringTable} {nameOffset : Int}
    (marked : (lookupName strings nameOffset).2 ≠ none) :
    (lookupName strings nameOffset).1 = "<corrupt>" := by
  unfold lookupName at marked ⊢
  split
  · rfl
  · split
    · rename_i table _ name found
      simp only [found] at marked
      exact absurd rfl marked
    · rfl

end Symbol

namespace SymbolTable

variable {image : Image} {sections : List Section} {identity : Identity} {header : Section}

theorem symbols_of_ofSection {symbol : Symbol} {place : Nat}
    (found : (ofSection image sections identity header).symbols[place]? = some symbol) :
    symbol.index = place ∧ (symbol.nameError ≠ none → symbol.name = "<corrupt>") := by
  rw [ofSection_eq] at found
  cases decoded : outcome image sections identity header with
  | error fault =>
      rw [decoded] at found
      contradiction
  | ok symbols =>
      rw [decoded] at found
      obtain ⟨base, _, _, rfl⟩ := (Symbol.symbol_of_decodeSection decoded).2 place symbol found
      exact ⟨rfl, Symbol.placeholder_of_lookupName⟩

theorem symbols_of_error (marked : (ofSection image sections identity header).error ≠ none) :
    (ofSection image sections identity header).symbols = [] := by
  rw [ofSection_eq] at marked ⊢
  cases decoded : outcome image sections identity header with
  | error fault => rfl
  | ok symbols =>
      rw [decoded] at marked
      exact absurd rfl marked

end SymbolTable

/-! ## The dynamic table -/

namespace DynamicEntry

theorem named_ofWords (strings : Except Fault StringTable) (tag value : Int) :
    ((ofWords strings tag value).name ≠ none ↔ tag ∈ [1, 14, 15, 29]) ∧
      ((ofWords strings tag value).nameError ≠ none →
        (ofWords strings tag value).name = some "<corrupt>") := by
  unfold ofWords
  by_cases named : tag ∈ DynamicTag.named
  · have named_list : tag ∈ [1, 14, 15, 29] := named
    simp only [if_pos named, named_list, iff_true]
    split
    · exact ⟨Option.some_ne_none _, fun _ => rfl⟩
    · split
      · exact ⟨Option.some_ne_none _, fun marked => absurd rfl marked⟩
      · exact ⟨Option.some_ne_none _, fun _ => rfl⟩
  · have named_list : tag ∉ [1, 14, 15, 29] := named
    simp [if_neg named, named_list]

/-- Every entry comes from a pair of words, and none but the last one has a null tag. -/
theorem entries_of_outcome {sections : List Section} (image : Image) (identity : Identity)
    (offset_nonneg : ∀ found ∈ sections, 0 ≤ found.fileOffset) :
    (∀ entry ∈ Fault.entries (outcome image sections identity), ∃ strings tag value,
        entry = ofWords strings tag value) ∧
      ∀ entry ∈ (Fault.entries (outcome image sections identity)).dropLast,
        entry.tag ≠ DynamicTag.null := by
  cases found_eq : findSection? sections with
  | none => simp [outcome, found_eq, Fault.entries]
  | some found =>
      have found_nonneg := offset_nonneg found (List.mem_of_find?_eq_some found_eq)
      rw [outcome_of_find image identity found_eq, decodeSection_eq _ _ _ found_nonneg]
      cases fault? found image.size with
      | some fault => simp [Fault.outcome, Fault.entries]
      | none =>
          obtain ⟨_, _, unended, _⟩ := Table.upTo_eq_iff.mp
            (rfl : words image found identity = words image found identity)
          simp only [Fault.outcome, Fault.entries, ← List.map_dropLast, List.forall_mem_map,
            tag_ofWords]
          exact ⟨fun pair _ => ⟨_, _, _, rfl⟩, fun pair member =>
            of_decide_eq_false (unended pair member)⟩

end DynamicEntry

/-! ## The whole dump -/

namespace Fault

/-- The name of a table if it could not be read. -/
def lost {α : Type} (table : String) : Except Fault α → List String
  | .ok _ => []
  | .error _ => [table]

variable {α : Type}

theorem map_field_trace? (table : String) (outcome : Except Fault α) :
    (trace? table outcome).toList.map Marker.field = lost table outcome := by
  cases outcome <;> rfl

theorem lost_sublist (table : String) (outcome : Except Fault α) :
    (lost table outcome).Sublist [table] := by
  cases outcome with
  | ok value => exact List.nil_sublist _
  | error fault => exact List.Sublist.refl _

theorem count_lost (table other : String) (outcome : Except Fault α) :
    (lost table outcome).count other =
      if table = other then (lost table outcome).length else 0 := by
  cases outcome with
  | ok value => simp [lost]
  | error fault => by_cases same : table = other <;> simp [lost, same]

end Fault

namespace Dump

variable {image : Image} {path : String} {identity : Identity} {header : FileHeader}

theorem warnedTables_ofHeader (image : Image) (path : String) (identity : Identity)
    (header : FileHeader) :
    (ofHeader image path identity header).warnedTables =
      Fault.lost "program_headers" (Segment.decodeTable image header identity) ++
        Fault.lost "section_headers" (Section.decodeTable image header identity) ++
        Fault.lost "dynamic"
          (DynamicEntry.outcome image (namedSections image identity header) identity) := by
  simp only [warnedTables, ofHeader, List.map_append, Fault.map_field_trace?]

/-- Each table has as many warnings as it has faults. -/
theorem count_warnedTables (image : Image) (path : String) (identity : Identity)
    (header : FileHeader) :
    (ofHeader image path identity header).warnedTables.count "program_headers" =
        (Fault.lost "program_headers" (Segment.decodeTable image header identity)).length ∧
      (ofHeader image path identity header).warnedTables.count "section_headers" =
        (Fault.lost "section_headers" (Section.decodeTable image header identity)).length ∧
      (ofHeader image path identity header).warnedTables.count "dynamic" =
        (Fault.lost "dynamic"
          (DynamicEntry.outcome image (namedSections image identity header) identity)).length := by
  rw [warnedTables_ofHeader]
  simp [List.count_append, Fault.count_lost]

theorem keptOrGivenUp_of_count {dump : Dump} {α : Type} {table : String}
    {outcome : Except Fault (List α)} {count : Int}
    (count_eq : dump.warnedTables.count table = (Fault.lost table outcome).length)
    (complete : ∀ entries, outcome = .ok entries → (entries.length : Int) = count) :
    dump.KeptOrGivenUp table (Fault.entries outcome).length count := by
  cases outcome with
  | ok entries => exact .inl ⟨complete entries rfl, List.count_eq_zero.mp count_eq⟩
  | error fault => exact .inr ⟨rfl, count_eq⟩

theorem dynamic_eq_nil_of_warned
    (warned : "dynamic" ∈ (ofHeader image path identity header).warnedTables) :
    (ofHeader image path identity header).dynamic = [] := by
  have count_pos := List.count_pos_iff.mpr warned
  rw [(count_warnedTables image path identity header).2.2] at count_pos
  simp only [ofHeader]
  cases outcome_eq :
      DynamicEntry.outcome image (namedSections image identity header) identity with
  | error fault => rfl
  | ok entries =>
      rw [outcome_eq] at count_pos
      contradiction

/-- Without sections there is no dynamic table that could be given up. -/
theorem dynamic_not_warned
    (warned : "section_headers" ∈ (ofHeader image path identity header).warnedTables) :
    "dynamic" ∉ (ofHeader image path identity header).warnedTables := by
  obtain ⟨_, section_count, dynamic_count⟩ := count_warnedTables image path identity header
  have count_pos := List.count_pos_iff.mpr warned
  rw [section_count] at count_pos
  cases decoded : Section.decodeTable image header identity with
  | ok sections =>
      rw [decoded] at count_pos
      contradiction
  | error fault =>
      have no_sections : namedSections image identity header = [] := by
        simp [namedSections, decoded, Fault.entries, Section.resolveNames_eq]
      rw [no_sections] at dynamic_count
      exact List.count_eq_zero.mp dynamic_count

section Sections

theorem index_of_namedSections (header_nonneg : ∀ name, 0 ≤ header.field name) {place : Nat}
    {found : Section} (found_eq : (namedSections image identity header)[place]? = some found) :
    found.index = place := by
  have unnamed_eq := congrArg (·[place]?) (map_unnamed_namedSections image identity header)
  simp only [List.getElem?_map, found_eq, Option.map_some] at unnamed_eq
  cases decoded : Section.decodeTable image header identity with
  | error fault =>
      rw [decoded] at unnamed_eq
      contradiction
  | ok sections =>
      rw [decoded] at unnamed_eq
      exact (Section.entries_of_decodeTable header_nonneg decoded).2 place found.unnamed
        unnamed_eq.symm

theorem length_namedSections :
    (namedSections image identity header).length =
      (Fault.entries (Section.decodeTable image header identity)).length := by
  rw [← map_unnamed_namedSections, List.length_map]

theorem named_of_namedSections {found : Section}
    (member : found ∈ namedSections image identity header) :
    found.name ≠ none ∧ (found.nameError ≠ none → found.name = some "<corrupt>") := by
  obtain ⟨decoded, fresh, rfl⟩ := eq_nameBy_of_mem member
  exact Section.named_nameBy _ fresh

end Sections

/-- The parts of every dump fit together. -/
theorem consistent_of_decode {dump : Dump} (decoded : decode image path = .ok dump) :
    dump.Consistent := by
  obtain ⟨identity, header, _, header_eq, rfl⟩ := decode_eq_ok_iff.mp decoded
  have header_nonneg := FileHeader.field_nonneg header_eq
  have section_nonneg : ∀ found ∈ namedSections image identity header, 0 ≤ found.fileOffset :=
    fileOffset_nonneg image identity (header_nonneg .sectionHeaderOffset)
  have numbered : ∀ (place : Nat) (found : Section),
      (namedSections image identity header)[place]? = some found → found.index = place :=
    fun place found => index_of_namedSections header_nonneg
  obtain ⟨program_count, section_count, _⟩ := count_warnedTables image path identity header
  obtain ⟨entries_made, unended⟩ :=
    DynamicEntry.entries_of_outcome image identity section_nonneg
  constructor
  case segment_index =>
    intro place segment found
    simp only [ofHeader] at found
    cases segments_eq : Segment.decodeTable image header identity with
    | error fault =>
        rw [segments_eq] at found
        contradiction
    | ok segments =>
        rw [segments_eq] at found
        exact (Segment.entries_of_decodeTable header_nonneg segments_eq).2 place segment found
  case section_index => exact numbered
  case symbol_index =>
    intro table member place symbol found
    obtain ⟨held, _, rfl⟩ := List.mem_map.mp member
    exact (SymbolTable.symbols_of_ofSection found).1
  case segments_kept =>
    exact keptOrGivenUp_of_count program_count fun segments segments_eq =>
      (Segment.entries_of_decodeTable header_nonneg segments_eq).1
  case sections_kept =>
    have kept := keptOrGivenUp_of_count section_count fun sections sections_eq =>
      (Section.entries_of_decodeTable header_nonneg sections_eq).1
    rwa [← length_namedSections] at kept
  case length_segmentSections => exact List.length_map _
  case row_increasing =>
    intro row member
    obtain ⟨segment, _, rfl⟩ := List.mem_map.mp member
    exact Segment.members_increasing segment numbered
  case row_section =>
    intro row member index index_mem
    obtain ⟨segment, _, rfl⟩ := List.mem_map.mp member
    exact Segment.section_of_members numbered index_mem
  case symbolTables_eq =>
    simp only [ofHeader, SymbolTable.decodeAll, ← SymbolTable.isHeld_eq, List.map_map]
    apply List.map_congr_left
    intro held _
    simp only [Function.comp_apply, SymbolTable.ofSection_eq]
  case symbols_of_error =>
    intro table member marked
    obtain ⟨held, _, rfl⟩ := List.mem_map.mp member
    exact SymbolTable.symbols_of_error marked
  case warnedTables_sublist =>
    rw [warnedTables_ofHeader]
    exact ((Fault.lost_sublist _ _).append (Fault.lost_sublist _ _)).append
      (Fault.lost_sublist _ _)
  case warned_once => exact dynamic_not_warned
  case section_named => exact fun found member => (named_of_namedSections member).1
  case section_placeholder => exact fun found member => (named_of_namedSections member).2
  case symbol_placeholder =>
    intro table member symbol symbol_mem
    obtain ⟨held, _, rfl⟩ := List.mem_map.mp member
    obtain ⟨place, found⟩ := List.mem_iff_getElem?.mp symbol_mem
    exact (SymbolTable.symbols_of_ofSection found).2
  case null_last => exact unended
  case entry_named =>
    intro entry member
    obtain ⟨strings, tag, value, rfl⟩ := entries_made entry member
    rw [DynamicEntry.tag_ofWords]
    exact (DynamicEntry.named_ofWords strings tag value).1
  case entry_placeholder =>
    intro entry member
    obtain ⟨strings, tag, value, rfl⟩ := entries_made entry member
    exact (DynamicEntry.named_ofWords strings tag value).2
  case dynamic_of_warned => exact dynamic_eq_nil_of_warned

/-- The small image, whose only symbol lacks a name. -/
theorem consistent_small :
    ∃ dump, decode (small 0) "" = .ok dump ∧ dump.hasWarnings = true ∧ dump.Consistent := by
  obtain ⟨dump, decoded, damaged⟩ :
      ∃ dump, decode (small 0) "" = .ok dump ∧ dump.hasWarnings = true :=
    exists_of_any_decode (by decide +kernel)
  exact ⟨dump, decoded, damaged, consistent_of_decode decoded⟩

end Dump
end ElfInspect
