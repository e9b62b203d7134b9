import ElfInspect.FileHeader
import ElfInspect.Table

/-!
# Sections

A section header describes a section, a named range of the file.  The name is a place in a string
table; until it is looked up a section is known by its index alone.
-/

namespace ElfInspect

/-- The decoded header of a section. -/
structure Section where
  /-- Position in the section header table. -/
  index : Int
  /-- Where the name starts in the table of section names. -/
  nameOffset : Int := 0
  /-- The name, once it is looked up. -/
  name : Option String := none
  /-- What went wrong with the name. -/
  nameError : Option Marker := none
  sectionType : Int := 0
  flags : Int := 0
  address : Int := 0
  fileOffset : Int := 0
  size : Int := 0
  /-- Index of a section that belongs to this one. -/
  link : Int := 0
  /-- Further information by kind of section. -/
  info : Int := 0
  addressAlignment : Int := 0
  entrySize : Int := 0
  deriving DecidableEq, Repr

namespace Section

/-- The fields of a section header. -/
inductive FieldName where
  | nameOffset
  | sectionType
  | flags
  | address
  | fileOffset
  | size
  | link
  | info
  | addressAlignment
  | entrySize
  deriving DecidableEq, Repr

/-- Where the fields of a section header lie. -/
def layout : AddressClass → Layout FieldName
  | .bits32 =>
      [⟨.nameOffset, 0, 4⟩, ⟨.sectionType, 4, 4⟩, ⟨.flags, 8, 4⟩, ⟨.address, 12, 4⟩,
        ⟨.fileOffset, 16, 4⟩, ⟨.size, 20, 4⟩, ⟨.link, 24, 4⟩, ⟨.info, 28, 4⟩,
        ⟨.addressAlignment, 32, 4⟩, ⟨.entrySize, 36, 4⟩]
  | .bits64 =>
      [⟨.nameOffset, 0, 4⟩, ⟨.sectionType, 4, 4⟩, ⟨.flags, 8, 8⟩, ⟨.address, 16, 8⟩,
        ⟨.fileOffset, 24, 8⟩, ⟨.size, 32, 8⟩, ⟨.link, 40, 4⟩, ⟨.info, 44, 4⟩,
        ⟨.addressAlignment, 48, 8⟩, ⟨.entrySize, 56, 8⟩]

/-- The value of a field. -/
def field (header : Section) : FieldName → Int
  | .nameOffset => header.nameOffset
  | .sectionType => header.sectionType
  | .flags => header.flags
  | .address => header.address
  | .fileOffset => header.fileOffset
  | .size => header.size
  | .link => header.link
  | .info => header.info
  | .addressAlignment => header.addressAlignment
  | .entrySize => header.entrySize

/-- The section at an index whose fields have given values, its name not looked up. -/
def ofFields (index : Int) (value : FieldName → Int) : Section :=
  { index := index
    nameOffset := value .nameOffset
    sectionType := value .sectionType
    flags := value .flags
    address := value .address
    fileOffset := value .fileOffset
    size := value .size
    link := value .link
    info := value .info
    addressAlignment := value .addressAlignment
    entrySize := value .entrySize }

@[simp] theorem field_ofFields (index : Int) (value : FieldName → Int) :
    (ofFields index value).field = value := by
  funext name
  cases name <;> rfl

/-- The name of a section, or its index in brackets before the name is looked up. -/
def displayName (header : Section) : String :=
  header.name.getD ("[" ++ toString header.index ++ "]")

/-- The first section of a given name. -/
def find? (sections : List Section) (name : String) : Option Section :=
  sections.find? fun header => header.name = some name

end Section

/-- The section header table that a file header declares. -/
def FileHeader.sectionHeaders (header : FileHeader) : HeaderTable :=
  { entryName := "section header"
    offset := header.sectionHeaderOffset
    entrySize := header.sectionHeaderEntrySize
    count := header.sectionHeaderCount }

/-- The sections of an image in table order, their names not looked up. -/
def Section.decodeTable (image : Image) (header : FileHeader) (identity : Identity) :
    Except Fault (List Section) :=
  (header.sectionHeaders.read (layout identity.addressClass) image identity.byteOrder).map
    fun records => records.mapIdx fun index record => ofFields index record.get

end ElfInspect
