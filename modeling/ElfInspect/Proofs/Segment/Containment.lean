import ElfInspect.Proofs.Codes
import ElfInspect.Proofs.Names
import ElfInspect.Segment.Membership

/-!
# Sections as ranges inside segments

A section with room of its own lies inside a segment when the kinds of both go together and its
ranges are parts of those of the segment.  A section without any has only a place to be compared:
the place must be one of the segment's, or the start of an empty segment.
-/

namespace ElfInspect

namespace Extent

/-- The place is one of the extent's. -/
def Has (extent : Extent) (place : Int) : Prop :=
  extent.start ≤ place ∧ place < extent.start + extent.size

/-- Every place of one extent is a place of another one. -/
def Covers (outer inner : Extent) : Prop := ∀ place, inner.Has place → outer.Has place

/-- Something empty may stand at the place: at one of the extent's own, or at the start of an
extent that is empty itself. -/
def Hosts (extent : Extent) (place : Int) : Prop :=
  extent.Has place ∨ extent.size = 0 ∧ place = extent.start

/-- The place is one of the extent's, but not the first one. -/
def HasBehindStart (extent : Extent) (place : Int) : Prop :=
  extent.Has place ∧ place ≠ extent.start

end Extent

namespace Section

/-- The range of a section in memory. -/
def addressRange (header : Section) : Extent := { start := header.address, size := header.size }

/-- A section is part of the template of thread-local storage. -/
def ThreadLocal (header : Section) : Prop := header.flags.testBit 10 = true

/-- A section occupies memory. -/
def Allocated (header : Section) : Prop := header.flags.testBit 1 = true

/-- A section has content in the file. -/
def InFile (header : Section) : Prop := header.sectionType ≠ 8

instance (header : Section) : Decidable header.ThreadLocal :=
  inferInstanceAs (Decidable (header.flags.testBit 10 = true))

instance (header : Section) : Decidable header.Allocated :=
  inferInstanceAs (Decidable (header.flags.testBit 1 = true))

instance (header : Section) : Decidable header.InFile :=
  inferInstanceAs (Decidable (header.sectionType ≠ 8))

theorem isThreadLocal_eq (header : Section) :
    header.isThreadLocal = decide header.ThreadLocal := by
  rw [isThreadLocal, bitAt_eq_testBit]
  exact Bool.decide_eq_true.symm

theorem isAllocated_eq (header : Section) : header.isAllocated = decide header.Allocated := by
  rw [isAllocated, bitAt_eq_testBit]
  exact Bool.decide_eq_true.symm

theorem isNobits_eq (header : Section) : header.isNobits = !decide header.InFile := by
  rw [← decide_not]
  exact decide_eq_decide.mpr Decidable.not_not.symm

end Section

namespace Segment

/-- The range of a segment in the file. -/
def fileImage (segment : Segment) : Extent :=
  { start := segment.fileOffset, size := segment.fileSize }

/-- The range of a segment in memory. -/
def memoryImage (segment : Segment) : Extent :=
  { start := segment.virtualAddress, size := segment.memorySize }

/-- A segment of the kind can have a section of that kind. -/
structure Compatible (segment : Segment) (header : Section) : Prop where
  /-- Thread-local sections belong to their own template, to what is loaded and to what becomes
  read-only. -/
  threadLocal_mem : header.ThreadLocal → segment.segmentType ∈ [7, 0x6474E552, 1]
  /-- No other section belongs to that template or to the program headers. -/
  threadLocal_not_mem : ¬header.ThreadLocal → segment.segmentType ∉ [7, 6]
  /-- What occupies no memory is never loaded. -/
  allocated :
    ¬header.Allocated →
      segment.segmentType ∉ [1, 2, 0x6474E550, 0x6474E552] ∧
        ¬(0x6474E555 ≤ segment.segmentType ∧ segment.segmentType ≤ 0x6474F554)

/-- A section is thread-local without content, and the segment is not the one of its template. -/
def Ignores (segment : Segment) (header : Section) : Prop :=
  header.ThreadLocal ∧ ¬header.InFile ∧ segment.segmentType ≠ 7

/-- A section takes room in a segment. -/
def GivesRoom (segment : Segment) (header : Section) : Prop :=
  0 < header.size ∧ ¬segment.Ignores header

/-- A section takes no room in a segment. -/
def GivesNone (segment : Segment) (header : Section) : Prop :=
  header.size = 0 ∨ segment.Ignores header

instance (segment : Segment) (header : Section) : Decidable (segment.Ignores header) :=
  inferInstanceAs (Decidable (_ ∧ _ ∧ _))

instance (segment : Segment) (header : Section) : Decidable (segment.GivesRoom header) :=
  inferInstanceAs (Decidable (_ ∧ _))

instance (segment : Segment) (header : Section) : Decidable (segment.GivesNone header) :=
  inferInstanceAs (Decidable (_ ∨ _))

/-- The ranges of a section are parts of those of a segment, as far as the section has them. -/
structure CoversRanges (segment : Segment) (header : Section) (checkMemory : Bool) : Prop where
  file : header.InFile → segment.fileImage.Covers header.extent
  memory : checkMemory = true → header.Allocated → segment.memoryImage.Covers header.addressRange

/-- A section without room of its own may stand where it does. -/
structure HostsPlaces (segment : Segment) (header : Section) (checkMemory : Bool) : Prop where
  file : header.InFile → segment.fileImage.Hosts header.fileOffset
  memory : checkMemory = true → header.Allocated → segment.memoryImage.Hosts header.address
  /-- Dynamic tables and notes have no empty sections at their edges. -/
  behind_start : segment.segmentType ∈ [2, 4] → header.size = 0 → segment.memorySize ≠ 0 →
    (header.InFile → segment.fileImage.HasBehindStart header.fileOffset) ∧
      (header.Allocated → segment.memoryImage.HasBehindStart header.address)

/-! ## Ranges -/

section Ranges

variable {strict : Bool} {start extent position size : Int}

/-- A range is covered when each of its places is, whether or not its first one is looked at. -/
theorem covers_iff_covers (size_pos : 0 < size) :
    covers strict start extent position size = true ↔
      Extent.Covers ⟨start, extent⟩ ⟨position, size⟩ := by
  constructor
  · intro covered place inside
    simp only [covers, Bool.and_eq_true, decide_eq_true_eq] at covered
    simp only [Extent.Has] at inside ⊢
    omega
  · intro inside
    have first := inside position
    have last := inside (position + size - 1)
    simp only [Extent.Has] at first last
    have first_lt : ¬(extent ≤ position - start) := by omega
    simp only [covers, first_lt, decide_false, Bool.and_false, Bool.not_false, Bool.and_true,
      Bool.and_eq_true, decide_eq_true_eq]
    omega

theorem covers_iff_hosts :
    covers true start extent position 0 = true ↔ Extent.Hosts ⟨start, extent⟩ position := by
  simp only [covers, Extent.Hosts, Extent.Has, Bool.true_and, Bool.and_eq_true,
    Bool.not_eq_true', Bool.and_eq_false_imp, decide_eq_true_eq, decide_eq_false_iff_not]
  omega

theorem covers_of_strict (covered : covers true start extent position size = true) :
    covers false start extent position size = true := by
  simp only [covers, Bool.and_eq_true] at covered ⊢
  exact ⟨⟨covered.1.1, rfl⟩, covered.2⟩

theorem coversInside_iff :
    coversInside start extent position = true ↔
      Extent.HasBehindStart ⟨start, extent⟩ position := by
  simp only [coversInside, Extent.HasBehindStart, Extent.Has, Bool.and_eq_true,
    decide_eq_true_eq]
  omega

end Ranges

/-! ## Membership -/

section Membership

variable {segment : Segment} {header : Section} {checkMemory strict : Bool}

theorem admits_iff : segment.admits header = true ↔ segment.Compatible header := by
  have conditions : segment.Compatible header ↔
      (header.ThreadLocal → segment.segmentType ∈ [7, 0x6474E552, 1]) ∧
        (¬header.ThreadLocal → segment.segmentType ∉ [7, 6]) ∧
          (¬header.Allocated →
            segment.segmentType ∉ [1, 2, 0x6474E550, 0x6474E552] ∧
              ¬(0x6474E555 ≤ segment.segmentType ∧ segment.segmentType ≤ 0x6474F554)) :=
    ⟨fun ⟨mem, not_mem, allocated⟩ => ⟨mem, not_mem, allocated⟩,
      fun ⟨mem, not_mem, allocated⟩ => ⟨mem, not_mem, allocated⟩⟩
  rw [conditions]
  by_cases threadLocal : header.ThreadLocal <;> by_cases allocated : header.Allocated
  all_goals
    simp only [admits, header.isThreadLocal_eq, header.isAllocated_eq, threadLocal, allocated,
      decide_true, decide_false, if_true, Bool.false_eq_true, if_false, Bool.false_or,
      Bool.true_or, Bool.and_true, Bool.and_eq_true, Bool.not_eq_true', decide_eq_true_eq,
      decide_eq_false_iff_not]
    simp [SegmentType.threadLocal, SegmentType.relro, SegmentType.load,
      SegmentType.programHeaders, SegmentType.dynamic, SegmentType.ehFrame,
      SegmentType.mbindLow, SegmentType.mbindHigh, and_assoc]

theorem excludesEdges_iff :
    segment.excludesEdges header = true ↔
      segment.segmentType ∈ [2, 4] ∧ header.size = 0 ∧ segment.memorySize ≠ 0 := by
  simp only [excludesEdges, Bool.and_eq_true, decide_eq_true_eq, and_assoc]
  simp [SegmentType.dynamic, SegmentType.note]

/-- Membership as the four conditions that it checks. -/
theorem contains_iff :
    segment.contains header checkMemory strict = true ↔
      segment.Compatible header ∧
        (header.InFile →
          covers strict segment.fileOffset segment.fileSize header.fileOffset
            (segment.effectiveSize header) = true) ∧
        (checkMemory = true → header.Allocated →
          covers strict segment.virtualAddress segment.memorySize header.address
            (segment.effectiveSize header) = true) ∧
        (segment.segmentType ∈ [2, 4] → header.size = 0 → segment.memorySize ≠ 0 →
          (header.InFile → segment.fileImage.HasBehindStart header.fileOffset) ∧
            (header.Allocated → segment.memoryImage.HasBehindStart header.address)) := by
  have edges : (!segment.excludesEdges header ||
      ((header.isNobits ||
          coversInside segment.fileOffset segment.fileSize header.fileOffset) &&
        (!header.isAllocated ||
          coversInside segment.virtualAddress segment.memorySize header.address))) = true ↔
      (segment.segmentType ∈ [2, 4] ∧ header.size = 0 ∧ segment.memorySize ≠ 0 →
        (header.InFile → segment.fileImage.HasBehindStart header.fileOffset) ∧
          (header.Allocated → segment.memoryImage.HasBehindStart header.address)) := by
    rw [← excludesEdges_iff, fileImage, memoryImage, ← coversInside_iff, ← coversInside_iff,
      header.isNobits_eq, header.isAllocated_eq]
    by_cases inFile : header.InFile <;> by_cases allocated : header.Allocated <;>
      cases segment.excludesEdges header <;> simp [inFile, allocated]
  rw [contains, Bool.and_eq_true, edges, ← admits_iff, header.isNobits_eq, header.isAllocated_eq]
  by_cases inFile : header.InFile <;> by_cases allocated : header.Allocated <;>
    cases checkMemory <;> simp [inFile, allocated, and_assoc]

theorem contains_of_strict (member : segment.contains header checkMemory true = true) :
    segment.contains header checkMemory false = true := by
  obtain ⟨compatible, file, memory, edges⟩ := contains_iff.mp member
  exact contains_iff.mpr ⟨compatible, fun in_file => covers_of_strict (file in_file),
    fun checked allocated => covers_of_strict (memory checked allocated), edges⟩

theorem contains_of_checkMemory (member : segment.contains header true strict = true) :
    segment.contains header false strict = true := by
  obtain ⟨compatible, file, memory, edges⟩ := contains_iff.mp member
  exact contains_iff.mpr ⟨compatible, file, by simp, edges⟩

theorem effectiveSize_eq (segment : Segment) (header : Section) :
    segment.effectiveSize header = if segment.Ignores header then 0 else header.size := by
  have ignores_iff :
      (header.isThreadLocal = true ∧ header.isNobits = true ∧
          segment.segmentType ≠ SegmentType.threadLocal) ↔ segment.Ignores header := by
    simp [Ignores, header.isThreadLocal_eq, header.isNobits_eq, SegmentType.threadLocal]
  rw [effectiveSize, if_congr ignores_iff rfl rfl]

theorem contains_iff_coversRanges (room : segment.GivesRoom header) :
    segment.contains header checkMemory strict = true ↔
      segment.Compatible header ∧ segment.CoversRanges header checkMemory := by
  obtain ⟨size_pos, counted⟩ := room
  have size_eq : segment.effectiveSize header = header.size := by
    rw [effectiveSize_eq, if_neg counted]
  rw [contains_iff, size_eq, covers_iff_covers size_pos, covers_iff_covers size_pos]
  constructor
  · rintro ⟨compatible, file, memory, _⟩
    exact ⟨compatible, ⟨file, memory⟩⟩
  · rintro ⟨compatible, ranges⟩
    exact ⟨compatible, ranges.file, ranges.memory, fun _ no_size => by omega⟩

theorem contains_iff_hostsPlaces (no_room : segment.GivesNone header) :
    segment.contains header checkMemory true = true ↔
      segment.Compatible header ∧ segment.HostsPlaces header checkMemory := by
  have no_size : segment.effectiveSize header = 0 := by
    rw [effectiveSize_eq, ite_eq_left_iff]
    exact fun counted => no_room.resolve_right counted
  rw [contains_iff, no_size, covers_iff_hosts, covers_iff_hosts]
  constructor
  · rintro ⟨compatible, file, memory, edges⟩
    exact ⟨compatible, ⟨file, memory, edges⟩⟩
  · rintro ⟨compatible, places⟩
    exact ⟨compatible, places.file, places.memory, places.behind_start⟩

end Membership

/-- Membership weakens with its two conditions.  Where a section takes room, it says that the ranges
of the section are parts of those of the segment; where it takes none, that its places are among
them. -/
theorem contains_as_ranges (segment : Segment) (header : Section) :
    (∀ checkMemory, segment.contains header checkMemory true = true →
        segment.contains header checkMemory false = true) ∧
      (∀ strict, segment.contains header true strict = true →
        segment.contains header false strict = true) ∧
      (segment.GivesRoom header → ∀ checkMemory strict,
        (segment.contains header checkMemory strict = true ↔
          segment.Compatible header ∧ segment.CoversRanges header checkMemory)) ∧
      (segment.GivesNone header → ∀ checkMemory,
        (segment.contains header checkMemory true = true ↔
          segment.Compatible header ∧ segment.HostsPlaces header checkMemory)) :=
  ⟨fun _ => contains_of_strict, fun _ => contains_of_checkMemory,
    fun room _ _ => contains_iff_coversRanges room,
    fun no_room _ => contains_iff_hostsPlaces no_room⟩

/-- A section that ends with the file image of its segment lies inside; an empty one that starts
where the image ends does so only where its start is not looked at. -/
theorem contains_at_the_end :
    let segment : Segment :=
      { index := 0, segmentType := 1, fileOffset := 100, virtualAddress := 1000, fileSize := 50
        memorySize := 80 }
    let text : Section :=
      { index := 1, sectionType := 1, flags := 2, address := 1040, fileOffset := 140, size := 10 }
    let marker : Section :=
      { index := 2, sectionType := 1, flags := 2, address := 1050, fileOffset := 150 }
    segment.GivesRoom text ∧ segment.contains text true true = true ∧
      segment.GivesNone marker ∧ segment.contains marker true false = true ∧
        segment.contains marker true true = false := by
  intro segment text marker
  obtain ⟨_, _, with_room, _⟩ := contains_as_ranges segment text
  obtain ⟨_, _, _, without_room⟩ := contains_as_ranges segment marker
  have text_inside : segment.CoversRanges text true := by
    constructor
    · intro _ place inside
      simp only [Extent.Has, fileImage, Section.extent, segment, text] at inside ⊢
      omega
    · intro _ _ place inside
      simp only [Extent.Has, memoryImage, Section.addressRange, segment, text] at inside ⊢
      omega
  have marker_outside : ¬segment.HostsPlaces marker true := by
    intro places
    have hosted := places.file (by decide)
    simp only [Extent.Hosts, Extent.Has, fileImage, segment, marker] at hosted
    omega
  refine ⟨by decide, ?_, by decide, by decide, ?_⟩
  · exact (with_room (by decide) true true).mpr ⟨admits_iff.mp (by decide), text_inside⟩
  · rw [Bool.eq_false_iff]
    exact fun member => marker_outside ((without_room (by decide) true).mp member).2

end Segment
end ElfInspect
