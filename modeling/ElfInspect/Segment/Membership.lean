import ElfInspect.Codes
import ElfInspect.Section
import ElfInspect.Segment

/-!
# Sections inside segments

A section belongs to a segment when the kinds of both allow it and its ranges lie inside those of
the segment, in the file and in memory.
-/

namespace ElfInspect

namespace Section

/-- Whether a section is part of the template of thread-local storage. -/
def isThreadLocal (header : Section) : Bool := bitAt header.flags SectionFlags.threadLocalPlace

/-- Whether a section occupies memory. -/
def isAllocated (header : Section) : Bool := bitAt header.flags SectionFlags.allocPlace

/-- Whether a section takes no space in the file. -/
def isNobits (header : Section) : Bool := header.sectionType = SectionType.nobits

end Section

namespace Segment

/-- Whether the kinds of a section and a segment go together. -/
def admits (segment : Segment) (header : Section) : Bool :=
  let kind := segment.segmentType
  (if header.isThreadLocal then
      kind = SegmentType.threadLocal ∨ kind = SegmentType.relro ∨ kind = SegmentType.load
    else kind ≠ SegmentType.threadLocal ∧ kind ≠ SegmentType.programHeaders) &&
    (header.isAllocated ||
      !(kind = SegmentType.load ∨ kind = SegmentType.dynamic ∨ kind = SegmentType.ehFrame ∨
        kind = SegmentType.relro ∨
        (SegmentType.mbindLow ≤ kind ∧ kind ≤ SegmentType.mbindHigh)))

/-- The size that a section takes in a segment: thread-local sections without content take none
outside the segment of thread-local storage. -/
def effectiveSize (segment : Segment) (header : Section) : Int :=
  if header.isThreadLocal ∧ header.isNobits ∧ segment.segmentType ≠ SegmentType.threadLocal then 0
  else header.size

/-- Whether a range lies inside an extent.  Where `strict` is set it must also start before the
end of the extent, unless the extent is empty. -/
def covers (strict : Bool) (start extent position size : Int) : Bool :=
  start ≤ position && !(strict && extent ≠ 0 && extent ≤ position - start) &&
    position - start + size ≤ extent

/-- Whether a position lies inside an extent, but not at its start. -/
def coversInside (start extent position : Int) : Bool :=
  start < position && position - start < extent

/-- Whether an empty section must lie properly inside a segment: notes and dynamic tables count
nothing that merely touches them. -/
def excludesEdges (segment : Segment) (header : Section) : Bool :=
  (segment.segmentType = SegmentType.dynamic ∨ segment.segmentType = SegmentType.note) &&
    header.size = 0 && segment.memorySize ≠ 0

/-- Whether a section lies inside a segment.  The ranges in memory are compared if `checkMemory`
is set. -/
def contains (segment : Segment) (header : Section) (checkMemory strict : Bool) : Bool :=
  let size := segment.effectiveSize header
  segment.admits header &&
    (header.isNobits ||
      covers strict segment.fileOffset segment.fileSize header.fileOffset size) &&
    (!(checkMemory && header.isAllocated) ||
      covers strict segment.virtualAddress segment.memorySize header.address size) &&
    (!segment.excludesEdges header ||
      ((header.isNobits ||
          coversInside segment.fileOffset segment.fileSize header.fileOffset) &&
        (!header.isAllocated ||
          coversInside segment.virtualAddress segment.memorySize header.address)))

/-- The indices of the sections inside a segment, unused section headers left out. -/
def members (sections : List Section) (segment : Segment) : List Int :=
  (sections.filter fun header =>
    header.sectionType ≠ SectionType.null && segment.contains header true true).map Section.index

/-- For each segment the indices of the sections inside it. -/
def mapSections (segments : List Segment) (sections : List Section) : List (List Int) :=
  segments.map (members sections)

end Segment
end ElfInspect
