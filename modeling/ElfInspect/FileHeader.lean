import ElfInspect.Bytes.Record
import ElfInspect.Identity

/-!
# File header

The header follows the identification block.  Addresses and file offsets take four or eight bytes
by address class, which moves every field behind them.
-/

namespace ElfInspect

/-- The decoded file header. -/
structure FileHeader where
  /-- Code of the kind of object. -/
  objectType : Int := 0
  machine : Int := 0
  version : Int := 0
  /-- Address at which the program starts. -/
  entryPoint : Int := 0
  programHeaderOffset : Int := 0
  sectionHeaderOffset : Int := 0
  flags : Int := 0
  headerSize : Int := 0
  programHeaderEntrySize : Int := 0
  programHeaderCount : Int := 0
  sectionHeaderEntrySize : Int := 0
  sectionHeaderCount : Int := 0
  /-- Index of the section that holds the section names. -/
  sectionNameStringTableIndex : Int := 0
  deriving DecidableEq, Repr

namespace FileHeader

/-- The fields of the file header. -/
inductive FieldName where
  | objectType
  | machine
  | version
  | entryPoint
  | programHeaderOffset
  | sectionHeaderOffset
  | flags
  | headerSize
  | programHeaderEntrySize
  | programHeaderCount
  | sectionHeaderEntrySize
  | sectionHeaderCount
  | sectionNameStringTableIndex
  deriving DecidableEq, Repr

/-- Where the fields of the header lie in a file. -/
def layout : AddressClass → Layout FieldName
  | .bits32 =>
      [⟨.objectType, 16, 2⟩, ⟨.machine, 18, 2⟩, ⟨.version, 20, 4⟩, ⟨.entryPoint, 24, 4⟩,
        ⟨.programHeaderOffset, 28, 4⟩, ⟨.sectionHeaderOffset, 32, 4⟩, ⟨.flags, 36, 4⟩,
        ⟨.headerSize, 40, 2⟩, ⟨.programHeaderEntrySize, 42, 2⟩, ⟨.programHeaderCount, 44, 2⟩,
        ⟨.sectionHeaderEntrySize, 46, 2⟩, ⟨.sectionHeaderCount, 48, 2⟩,
        ⟨.sectionNameStringTableIndex, 50, 2⟩]
  | .bits64 =>
      [⟨.objectType, 16, 2⟩, ⟨.machine, 18, 2⟩, ⟨.version, 20, 4⟩, ⟨.entryPoint, 24, 8⟩,
        ⟨.programHeaderOffset, 32, 8⟩, ⟨.sectionHeaderOffset, 40, 8⟩, ⟨.flags, 48, 4⟩,
        ⟨.headerSize, 52, 2⟩, ⟨.programHeaderEntrySize, 54, 2⟩, ⟨.programHeaderCount, 56, 2⟩,
        ⟨.sectionHeaderEntrySize, 58, 2⟩, ⟨.sectionHeaderCount, 60, 2⟩,
        ⟨.sectionNameStringTableIndex, 62, 2⟩]

/-- The value of a field. -/
def field (header : FileHeader) : FieldName → Int
  | .objectType => header.objectType
  | .machine => header.machine
  | .version => header.version
  | .entryPoint => header.entryPoint
  | .programHeaderOffset => header.programHeaderOffset
  | .sectionHeaderOffset => header.sectionHeaderOffset
  | .flags => header.flags
  | .headerSize => header.headerSize
  | .programHeaderEntrySize => header.programHeaderEntrySize
  | .programHeaderCount => header.programHeaderCount
  | .sectionHeaderEntrySize => header.sectionHeaderEntrySize
  | .sectionHeaderCount => header.sectionHeaderCount
  | .sectionNameStringTableIndex => header.sectionNameStringTableIndex

/-- The header whose fields have given values. -/
def ofFields (value : FieldName → Int) : FileHeader :=
  { objectType := value .objectType
    machine := value .machine
    version := value .version
    entryPoint := value .entryPoint
    programHeaderOffset := value .programHeaderOffset
    sectionHeaderOffset := value .sectionHeaderOffset
    flags := value .flags
    headerSize := value .headerSize
    programHeaderEntrySize := value .programHeaderEntrySize
    programHeaderCount := value .programHeaderCount
    sectionHeaderEntrySize := value .sectionHeaderEntrySize
    sectionHeaderCount := value .sectionHeaderCount
    sectionNameStringTableIndex := value .sectionNameStringTableIndex }

@[simp] theorem ofFields_field (header : FileHeader) : ofFields header.field = header := rfl

@[simp] theorem field_ofFields (value : FieldName → Int) : (ofFields value).field = value := by
  funext name
  cases name <;> rfl

/-- The header of an image of known identity, unless the image ends inside it. -/
def decode (image : Image) (identity : Identity) : Except Rejection FileHeader :=
  let layout := layout identity.addressClass
  match layout.read image identity.byteOrder 0 with
  | .ok record => .ok (ofFields record.get)
  | .error _ => .error (.truncatedHeader identity.addressClass layout.size image.size)

end FileHeader
end ElfInspect
