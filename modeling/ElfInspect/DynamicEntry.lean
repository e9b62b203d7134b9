import ElfInspect.Codes
import ElfInspect.StringTable

/-!
# Dynamic table

The dynamic table pairs signed tags with values and ends with the null tag.  The values of some tags
are places in the string table to which the section links.
-/

namespace ElfInspect

/-- A decoded entry of the dynamic table. -/
structure DynamicEntry where
  /-- What the entry means. -/
  tag : Int
  /-- Address, number or place of a name. -/
  value : Int := 0
  /-- The name, where the value is the place of one. -/
  name : Option String := none
  /-- What went wrong with the name. -/
  nameError : Option Marker := none
  deriving DecidableEq, Repr

namespace DynamicEntry

/-- The size of a tag, and of a value. -/
def wordSize (addressClass : AddressClass) : Nat := addressClass.bytes

/-- The size of an entry. -/
def entrySize (addressClass : AddressClass) : Nat := 2 * wordSize addressClass

/-- Whether an entry ends the table. -/
def isLast (entry : DynamicEntry) : Bool := entry.tag = DynamicTag.null

/-- An entry whose name could not be read. -/
def withNameFault (entry : DynamicEntry) (fault : Fault) : DynamicEntry :=
  { entry with name := some placeholderName, nameError := some (fault.marker "name") }

/-- The string table of a dynamic table, given the section to which it links. -/
def linkedStrings (image : Image) (link : Int) (linked : Option Section) :
    Except Fault StringTable :=
  let missing : Fault := .outOfBounds
    { subject := "dynamic string table", offset := link, width := 1, length := 0 }
  match linked with
  | none => .error missing
  | some header =>
      match StringTable.ofSection image header with
      | .ok table => .ok table
      | .error _ => .error missing

/-- The entry of a tag and a value, its name looked up where the tag calls for one. -/
def ofWords (strings : Except Fault StringTable) (tag value : Int) : DynamicEntry :=
  let entry : DynamicEntry := { tag := tag, value := value }
  if tag ∈ DynamicTag.named then
    match strings with
    | .error fault => entry.withNameFault fault
    | .ok table =>
        match table.lookup value with
        | .ok name => { entry with name := some name }
        | .error fault => entry.withNameFault fault
  else entry

/-- The entries of a section up to the null tag or the last whole entry. -/
def decodeSection (image : Image) (header : Section) (linked : Option Section)
    (identity : Identity) : Except Fault (List DynamicEntry) :=
  let width := wordSize identity.addressClass
  let size := entrySize identity.addressClass
  if image.size < header.fileOffset + header.size then
    .error (.outOfBounds
      { subject := "dynamic section " ++ toString header.index
        offset := header.fileOffset
        width := header.size
        length := image.size })
  else
    let strings := linkedStrings image header.link linked
    Table.collectUntil isLast (header.size / size).toNat fun index => do
      let offset := header.fileOffset + index * size
      let tag ← image.signed identity.byteOrder offset width
      let value ← image.unsigned identity.byteOrder (offset + width) width
      return ofWords strings tag value

/-- The section that holds the dynamic table. -/
def findSection? (sections : List Section) : Option Section :=
  sections.find? fun header => header.sectionType = SectionType.dynamic

end DynamicEntry
end ElfInspect
