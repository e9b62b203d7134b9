import ElfInspect.Proofs.Segment.Containment
import Mathlib.Data.List.Nodup

/-!
# Sections under segments

The mapping lists a section under each segment that has room for it.  Loaded segments that share no
address share no section, and what is listed under a segment inside a loaded one is listed under the
loaded one, too.
-/

namespace ElfInspect

namespace Extent

variable {outer inner extent : Extent} {place : Int}

/-- Two extents have no place in common. -/
def Apart (left right : Extent) : Prop := ∀ place, ¬(left.Has place ∧ right.Has place)

theorem Covers.trans {outermost : Extent} (first : outermost.Covers outer)
    (second : outer.Covers inner) : outermost.Covers inner :=
  fun place inside => first place (second place inside)

theorem Covers.has_start (covered : outer.Covers inner) (size_pos : 0 < inner.size) :
    outer.Has inner.start := by
  apply covered
  simp only [Has]
  omega

theorem Hosts.has (hosted : extent.Hosts place) (nonempty : extent.size ≠ 0) :
    extent.Has place := by
  obtain inside | ⟨is_empty, _⟩ := hosted
  · exact inside
  · contradiction

end Extent

namespace Segment

/-- A segment has room for a section: the kinds go together, and what the section takes up is a part
of the segment, or else it may stand where it does. -/
structure Accommodates (segment : Segment) (header : Section) : Prop where
  compatible : segment.Compatible header
  ranges : segment.GivesRoom header → segment.CoversRanges header true
  places : segment.GivesNone header → segment.HostsPlaces header true

/-- The mapping lists a section under the segment at a place. -/
def Lists (segments : List Segment) (sections : List Section) (place : Nat) (header : Section) :
    Prop :=
  ∃ row, (mapSections segments sections)[place]? = some row ∧ header.index ∈ row

/-- The loaded segments take up memory, and no two of them the same. -/
structure LoadedApart (segments : List Segment) : Prop where
  nonempty : ∀ segment ∈ segments, segment.segmentType = 1 → segment.memorySize ≠ 0
  apart : segments.Pairwise fun left right =>
    left.segmentType = 1 → right.segmentType = 1 → left.memoryImage.Apart right.memoryImage

/-- A segment that is empty neither in the file nor in memory lies inside another one. -/
structure LiesWithin (inner outer : Segment) : Prop where
  in_file : inner.fileSize ≠ 0
  in_memory : inner.memorySize ≠ 0
  file : outer.fileImage.Covers inner.fileImage
  memory : outer.memoryImage.Covers inner.memoryImage

/-! ## Room for a section -/

section Room

variable {segment inner outer : Segment} {header : Section}

/-- A section gives room to a segment or it does not. -/
theorem givesNone_iff (size_nonneg : 0 ≤ header.size) :
    segment.GivesNone header ↔ ¬segment.GivesRoom header := by
  rw [GivesNone, GivesRoom, not_and, not_not]
  constructor
  · rintro (no_size | ignored)
    · intro size_pos
      omega
    · exact fun _ => ignored
  · intro ignored
    obtain size_pos | no_size := Int.lt_or_eq_of_le size_nonneg
    · exact .inr (ignored size_pos)
    · exact .inl no_size.symm

/-- A section gives a loaded segment no more room than any other segment. -/
theorem GivesRoom.of_loaded (loaded : outer.segmentType = 1) (room : outer.GivesRoom header) :
    inner.GivesRoom header := by
  refine ⟨room.1, ?_⟩
  rintro ⟨threadLocal, no_content, _⟩
  exact room.2 ⟨threadLocal, no_content, by rw [loaded]; decide⟩

theorem contains_iff_accommodates (size_nonneg : 0 ≤ header.size) :
    segment.contains header true true = true ↔ segment.Accommodates header := by
  by_cases room : segment.GivesRoom header
  · rw [contains_iff_coversRanges room]
    constructor
    · rintro ⟨compatible, ranges⟩
      exact ⟨compatible, fun _ => ranges,
        fun no_room => absurd room ((givesNone_iff size_nonneg).mp no_room)⟩
    · intro accommodates
      exact ⟨accommodates.compatible, accommodates.ranges room⟩
  · have no_room := (givesNone_iff size_nonneg).mpr room
    rw [contains_iff_hostsPlaces no_room]
    constructor
    · rintro ⟨compatible, places⟩
      exact ⟨compatible, fun given => absurd given room, fun _ => places⟩
    · intro accommodates
      exact ⟨accommodates.compatible, accommodates.places no_room⟩

/-- Whether or not it takes up any of it, a section starts inside the file image of its segment. -/
theorem Accommodates.has_fileOffset (room : segment.Accommodates header)
    (size_nonneg : 0 ≤ header.size) (nonempty : segment.fileSize ≠ 0)
    (in_file : header.InFile) : segment.fileImage.Has header.fileOffset := by
  by_cases given : segment.GivesRoom header
  · exact ((room.ranges given).file in_file).has_start given.1
  · exact ((room.places ((givesNone_iff size_nonneg).mpr given)).file in_file).has nonempty

theorem Accommodates.has_address (room : segment.Accommodates header)
    (size_nonneg : 0 ≤ header.size) (nonempty : segment.memorySize ≠ 0)
    (allocated : header.Allocated) : segment.memoryImage.Has header.address := by
  by_cases given : segment.GivesRoom header
  · exact ((room.ranges given).memory rfl allocated).has_start given.1
  · exact ((room.places ((givesNone_iff size_nonneg).mpr given)).memory rfl allocated).has
      nonempty

/-- Only sections that occupy memory belong to a loaded segment. -/
theorem Accommodates.allocated (room : segment.Accommodates header)
    (loaded : segment.segmentType = 1) : header.Allocated := by
  by_contra not_allocated
  have excluded := (room.compatible.allocated not_allocated).1
  rw [loaded] at excluded
  exact excluded (by decide)

theorem compatible_of_loaded (loaded : segment.segmentType = 1)
    (allocated : header.Allocated) : segment.Compatible header := by
  constructor
  · intro _
    rw [loaded]
    decide
  · intro _
    rw [loaded]
    decide
  · intro not_allocated
    contradiction

/-- A loaded segment has room for what occupies memory inside one of its parts. -/
theorem Accommodates.of_liesWithin (room : inner.Accommodates header)
    (size_nonneg : 0 ≤ header.size) (allocated : header.Allocated)
    (loaded : outer.segmentType = 1) (within : inner.LiesWithin outer) :
    outer.Accommodates header := by
  refine ⟨compatible_of_loaded loaded allocated, ?_, ?_⟩
  · intro given
    have ranges := room.ranges (given.of_loaded loaded)
    exact ⟨fun in_file => within.file.trans (ranges.file in_file),
      fun checked _ => within.memory.trans (ranges.memory checked allocated)⟩
  · intro _
    constructor
    case file =>
      intro in_file
      exact .inl (within.file _ (room.has_fileOffset size_nonneg within.in_file in_file))
    case memory =>
      intro _ _
      exact .inl (within.memory _ (room.has_address size_nonneg within.in_memory allocated))
    case behind_start =>
      intro kind
      rw [loaded] at kind
      exact absurd kind (by decide)

end Room

/-! ## Rows of the mapping -/

section Rows

variable {segments : List Segment} {sections : List Section} {header : Section}

/-- Where indices tell sections apart, a row holds the index of exactly the sections that the
segment contains. -/
theorem lists_iff (distinct : (sections.map Section.index).Nodup)
    (size_nonneg : ∀ header ∈ sections, 0 ≤ header.size) (member : header ∈ sections)
    {place : Nat} {segment : Segment} (found : segments[place]? = some segment) :
    Lists segments sections place header ↔
      header.sectionType ≠ 0 ∧ segment.Accommodates header := by
  have row_eq : (mapSections segments sections)[place]? = some (members sections segment) := by
    rw [mapSections, List.getElem?_map, found]
    rfl
  rw [← contains_iff_accommodates (size_nonneg header member), Lists, row_eq]
  constructor
  · rintro ⟨row, row_is, listed⟩
    obtain rfl := Option.some.inj row_is
    obtain ⟨other, other_mem, same_index⟩ := List.mem_map.mp listed
    obtain ⟨other_section, inside⟩ := List.mem_filter.mp other_mem
    obtain rfl := List.inj_on_of_nodup_map distinct other_section member same_index
    rw [Bool.and_eq_true] at inside
    exact ⟨of_decide_eq_true inside.1, inside.2⟩
  · rintro ⟨used, inside⟩
    refine ⟨_, rfl, List.mem_map_of_mem (List.mem_filter.mpr ⟨member, ?_⟩)⟩
    rw [Bool.and_eq_true]
    exact ⟨decide_eq_true used, inside⟩

theorem LoadedApart.eq_of_has (loads : LoadedApart segments) {first second : Nat}
    {left right : Segment} (first_eq : segments[first]? = some left)
    (second_eq : segments[second]? = some right) (left_loaded : left.segmentType = 1)
    (right_loaded : right.segmentType = 1) {place : Int} (left_has : left.memoryImage.Has place)
    (right_has : right.memoryImage.Has place) : first = second := by
  obtain ⟨first_lt, rfl⟩ := List.getElem?_eq_some_iff.mp first_eq
  obtain ⟨second_lt, rfl⟩ := List.getElem?_eq_some_iff.mp second_eq
  have apart := List.pairwise_iff_getElem.mp loads.apart
  rcases Nat.lt_trichotomy first second with earlier | same | later
  · exact absurd ⟨left_has, right_has⟩
      (apart first second first_lt second_lt earlier left_loaded right_loaded place)
  · exact same
  · exact absurd ⟨right_has, left_has⟩
      (apart second first second_lt first_lt later right_loaded left_loaded place)

end Rows

/-- A section in use is listed under each segment that has room for it.  If loaded segments share no
address, that is at most one of these, also for an empty section or one at an edge.  What occupies
memory and is listed under a part of a loaded segment is listed under the loaded segment. -/
theorem mapSections_follows_geometry (segments : List Segment) (sections : List Section)
    (distinct : (sections.map Section.index).Nodup)
    (size_nonneg : ∀ header ∈ sections, 0 ≤ header.size) :
    (∀ (place : Nat) (segment : Segment), segments[place]? = some segment →
        ∀ header ∈ sections,
          (Lists segments sections place header ↔
            header.sectionType ≠ 0 ∧ segment.Accommodates header)) ∧
      (LoadedApart segments →
        ∀ (first second : Nat) (left right : Segment), segments[first]? = some left →
          segments[second]? = some right → left.segmentType = 1 → right.segmentType = 1 →
          ∀ header ∈ sections, Lists segments sections first header →
            Lists segments sections second header → first = second) ∧
      (∀ (part whole : Nat) (inner outer : Segment), segments[part]? = some inner →
        segments[whole]? = some outer → outer.segmentType = 1 → inner.LiesWithin outer →
        ∀ header ∈ sections, header.Allocated → Lists segments sections part header →
          Lists segments sections whole header) := by
  refine ⟨fun place segment found header member => lists_iff distinct size_nonneg member found,
    ?_, ?_⟩
  · intro loads first second left right first_eq second_eq left_loaded right_loaded header member
      first_lists second_lists
    obtain ⟨_, left_room⟩ := (lists_iff distinct size_nonneg member first_eq).mp first_lists
    obtain ⟨_, right_room⟩ := (lists_iff distinct size_nonneg member second_eq).mp second_lists
    have left_has := left_room.has_address (size_nonneg header member)
      (loads.nonempty left (List.mem_of_getElem? first_eq) left_loaded)
      (left_room.allocated left_loaded)
    have right_has := right_room.has_address (size_nonneg header member)
      (loads.nonempty right (List.mem_of_getElem? second_eq) right_loaded)
      (right_room.allocated right_loaded)
    exact loads.eq_of_has first_eq second_eq left_loaded right_loaded left_has right_has
  · intro part whole inner outer part_eq whole_eq loaded within header member allocated listed
    obtain ⟨used, room⟩ := (lists_iff distinct size_nonneg member part_eq).mp listed
    exact (lists_iff distinct size_nonneg member whole_eq).mpr
      ⟨used, room.of_liesWithin (size_nonneg header member) allocated loaded within⟩

/-- An empty section between two loaded segments is listed under the second alone, and a
thread-local one without content is listed under the loaded segment around its template. -/
theorem mapSections_at_the_boundary :
    let first : Segment :=
      { index := 0, segmentType := 1, virtualAddress := 100, fileSize := 40, memorySize := 40 }
    let second : Segment :=
      { index := 1, segmentType := 1, fileOffset := 40, virtualAddress := 140, fileSize := 20
        memorySize := 30 }
    let template : Segment :=
      { index := 2, segmentType := 7, fileOffset := 50, virtualAddress := 150, fileSize := 4
        memorySize := 20 }
    let marker : Section :=
      { index := 1, sectionType := 1, flags := 2, address := 140, fileOffset := 40 }
    let zeros : Section :=
      { index := 2, sectionType := 8, flags := 0x402, address := 154, fileOffset := 54, size := 16 }
    let segments := [first, second, template]
    let sections := [marker, zeros]
    (sections.map Section.index).Nodup ∧ (∀ header ∈ sections, 0 ≤ header.size) ∧
      LoadedApart segments ∧ Lists segments sections 1 marker ∧
      ¬Lists segments sections 0 marker ∧ template.LiesWithin second ∧
      Lists segments sections 2 zeros ∧ Lists segments sections 1 zeros := by
  intro first second template marker zeros segments sections
  have distinct : (sections.map Section.index).Nodup := by decide
  have size_nonneg : ∀ header ∈ sections, 0 ≤ header.size := by decide
  have loads : LoadedApart segments := by
    constructor
    · decide
    · simp only [segments, List.pairwise_cons, List.mem_cons, List.not_mem_nil, or_false]
      refine ⟨?_, ?_, ?_, ?_⟩
      · rintro right (rfl | rfl) _ loaded place ⟨left_has, right_has⟩
        · simp only [Extent.Has, memoryImage, first, second] at left_has right_has
          omega
        · exact absurd loaded (by decide)
      · rintro right rfl _ loaded
        exact absurd loaded (by decide)
      · intro right member
        contradiction
      · exact List.Pairwise.nil
  have within : template.LiesWithin second := by
    refine ⟨by decide, by decide, ?_, ?_⟩ <;> intro place inside <;>
      simp only [Extent.Has, fileImage, memoryImage, second, template] at inside ⊢ <;> omega
  have marker_listed : Lists segments sections 1 marker := ⟨_, rfl, by decide⟩
  have zeros_listed : Lists segments sections 2 zeros := ⟨_, rfl, by decide⟩
  obtain ⟨_, once, nested⟩ := mapSections_follows_geometry segments sections distinct size_nonneg
  refine ⟨distinct, size_nonneg, loads, marker_listed, ?_, within, zeros_listed, ?_⟩
  · intro also_listed
    have same := once loads 1 0 second first rfl rfl rfl rfl marker (by simp [sections])
      marker_listed also_listed
    contradiction
  · exact nested 2 1 template second rfl rfl rfl within zeros (by simp [sections]) (by decide)
      zeros_listed

end Segment
end ElfInspect
