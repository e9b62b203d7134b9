import ElfInspect.FileHeader
import ElfInspect.Table

/-!
# Segments

A program header describes a segment, a range of the file and the range of memory that it fills.
-/

namespace ElfInspect

/-- The decoded program header of a segment. -/
structure Segment where
  /-- Position in the program header table. -/
  index : Int
  segmentType : Int
  flags : Int := 0
  fileOffset : Int := 0
  virtualAddress : Int := 0
  physicalAddress : Int := 0
  fileSize : Int := 0
  memorySize : Int := 0
  alignment : Int := 0
  deriving DecidableEq, Repr

namespace Segment

/-- The fields of a program header. -/
inductive FieldName where
  | segmentType
  | flags
  | fileOffset
  | virtualAddress
  | physicalAddress
  | fileSize
  | memorySize
  | alignment
  deriving DecidableEq, Repr

/-- Where the fields of a program header lie; flags come early where addresses are wide. -/
def layout : AddressClass → Layout FieldName
  | .bits32 =>
      [⟨.segmentType, 0, 4⟩, ⟨.fileOffset, 4, 4⟩, ⟨.virtualAddress, 8, 4⟩,
        ⟨.physicalAddress, 12, 4⟩, ⟨.fileSize, 16, 4⟩, ⟨.memorySize, 20, 4⟩, ⟨.flags, 24, 4⟩,
        ⟨.alignment, 28, 4⟩]
  | .bits64 =>
      [⟨.segmentType, 0, 4⟩, ⟨.flags, 4, 4⟩, ⟨.fileOffset, 8, 8⟩, ⟨.virtualAddress, 16, 8⟩,
        ⟨.physicalAddress, 24, 8⟩, ⟨.fileSize, 32, 8⟩, ⟨.memorySize, 40, 8⟩, ⟨.alignment, 48, 8⟩]

/-- The value of a field. -/
def field (segment : Segment) : FieldName → Int
  | .segmentType => segment.segmentType
  | .flags => segment.flags
  | .fileOffset => segment.fileOffset
  | .virtualAddress => segment.virtualAddress
  | .physicalAddress => segment.physicalAddress
  | .fileSize => segment.fileSize
  | .memorySize => segment.memorySize
  | .alignment => segment.alignment

/-- The segment at an index whose fields have given values. -/
def ofFields (index : Int) (value : FieldName → Int) : Segment :=
  { index := index
    segmentType := value .segmentType
    flags := value .flags
    fileOffset := value .fileOffset
    virtualAddress := value .virtualAddress
    physicalAddress := value .physicalAddress
    fileSize := value .fileSize
    memorySize := value .memorySize
    alignment := value .alignment }

@[simp] theorem ofFields_field (segment : Segment) :
    ofFields segment.index segment.field = segment := rfl

@[simp] theorem field_ofFields (index : Int) (value : FieldName → Int) :
    (ofFields index value).field = value := by
  funext name
  cases name <;> rfl

end Segment

/-- The program header table that a file header declares. -/
def FileHeader.programHeaders (header : FileHeader) : HeaderTable :=
  { entryName := "program header"
    offset := header.programHeaderOffset
    entrySize := header.programHeaderEntrySize
    count := header.programHeaderCount }

/-- The segments of an image in table order. -/
def Segment.decodeTable (image : Image) (header : FileHeader) (identity : Identity) :
    Except Fault (List Segment) :=
  (header.programHeaders.read (layout identity.addressClass) image identity.byteOrder).map
    fun records => records.mapIdx fun index record => ofFields index record.get

end ElfInspect
