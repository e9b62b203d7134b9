import ElfInspect.Codes
import ElfInspect.StringTable

/-!
# Symbols

A symbol table is a section of fixed records.  Wide addresses do not only widen a record, they also
move the small fields in front.  Names come from the string table to which the section links;
without it the symbols are decoded all the same and marked.
-/

namespace ElfInspect

/-- A decoded symbol. -/
structure Symbol where
  /-- Position in the symbol table. -/
  index : Int
  /-- Where the name starts in the string table. -/
  nameOffset : Int := 0
  name : String := ""
  nameError : Option Marker := none
  /-- Address or other value. -/
  value : Int := 0
  size : Int := 0
  /-- Code of the linkage. -/
  binding : Int := 0
  symbolType : Int := 0
  visibility : Int := 0
  /-- Index of the section, or one of the reserved indices. -/
  sectionIndex : Int := 0
  deriving DecidableEq, Repr

namespace Symbol

/-- The fields of a symbol record. -/
inductive FieldName where
  | nameOffset
  | value
  | size
  | info
  | other
  | sectionIndex
  deriving DecidableEq, Repr

/-- Where the fields of a symbol record lie. -/
def layout : AddressClass → Layout FieldName
  | .bits32 =>
      [⟨.nameOffset, 0, 4⟩, ⟨.value, 4, 4⟩, ⟨.size, 8, 4⟩, ⟨.info, 12, 1⟩, ⟨.other, 13, 1⟩,
        ⟨.sectionIndex, 14, 2⟩]
  | .bits64 =>
      [⟨.nameOffset, 0, 4⟩, ⟨.info, 4, 1⟩, ⟨.other, 5, 1⟩, ⟨.sectionIndex, 6, 2⟩, ⟨.value, 8, 8⟩,
        ⟨.size, 16, 8⟩]

/-- The name at a place, with the marker that stands beside a placeholder. -/
def lookupName (strings : Except Fault StringTable) (nameOffset : Int) :
    String × Option Marker :=
  match strings with
  | .error fault => (placeholderName, some (fault.marker "name"))
  | .ok table =>
      match table.lookup nameOffset with
      | .ok name => (name, none)
      | .error fault => (placeholderName, some (fault.marker "name"))

/-- The symbol at an index whose record has given fields. -/
def ofFields (index : Int) (strings : Except Fault StringTable) (value : FieldName → Int) :
    Symbol :=
  { index := index
    nameOffset := value .nameOffset
    name := (lookupName strings (value .nameOffset)).1
    nameError := (lookupName strings (value .nameOffset)).2
    value := value .value
    size := value .size
    binding := value .info / 16
    symbolType := value .info % 16
    visibility := value .other % 4
    sectionIndex := value .sectionIndex }

/-- The string table of a symbol table, given the section to which it links. -/
def linkedStrings (image : Image) (link : Int) : Option Section → Except Fault StringTable
  | some header => StringTable.ofSection image header
  | none =>
      .error (.outOfBounds
        { subject := "linked string table index", offset := link, width := 1, length := 0 })

/-- The symbols of a section in table order; what follows the last whole record is ignored. -/
def decodeSection (image : Image) (header : Section) (linked : Option Section)
    (identity : Identity) : Except Fault (List Symbol) := do
  let layout := layout identity.addressClass
  let table := "symbol table section " ++ toString header.index
  Table.checkEntrySize header.entrySize layout.size table
  let count := header.size / header.entrySize
  Table.checkExtent image.size header.fileOffset header.entrySize count table
  let strings := linkedStrings image header.link linked
  Table.collect count.toNat fun index => do
    let record ← layout.read image identity.byteOrder (header.fileOffset + index * header.entrySize)
    return ofFields index strings record.get

end Symbol

/-- The symbols of one section. -/
structure SymbolTable where
  sectionIndex : Int
  sectionName : String := ""
  sectionType : Int := 0
  /-- The symbols in table order. -/
  symbols : List Symbol := []
  /-- What made the whole table unusable. -/
  error : Option Marker := none
  deriving DecidableEq, Repr

namespace SymbolTable

/-- Whether a section holds symbols. -/
def isHeld (header : Section) : Bool :=
  header.sectionType = SectionType.symtab || header.sectionType = SectionType.dynsym

/-- The symbol table of a section; a fault leaves it empty and marked. -/
def ofSection (image : Image) (sections : List Section) (identity : Identity)
    (header : Section) : SymbolTable :=
  let table : SymbolTable :=
    { sectionIndex := header.index
      sectionName := header.displayName
      sectionType := header.sectionType }
  match Symbol.decodeSection image header (Section.linked? sections header) identity with
  | .ok symbols => { table with symbols := symbols }
  | .error fault => { table with error := some (fault.marker "symbols") }

/-- The symbol tables of an image, each decoded on its own. -/
def decodeAll (image : Image) (sections : List Section) (identity : Identity) :
    List SymbolTable :=
  (sections.filter isHeld).map (ofSection image sections identity)

end SymbolTable
end ElfInspect
