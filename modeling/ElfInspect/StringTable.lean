import ElfInspect.Section
import ElfInspect.Text.Utf8

/-!
# String tables

A string table is a range of the image that holds names, each ended by a zero byte.  A name is
looked up by the place where it starts, which may be inside another name.
-/

namespace ElfInspect

/-- A range of an image that holds names. -/
structure StringTable where
  image : Image
  offset : Int
  size : Int

namespace StringTable

/-- The string table that a section holds, if the section ends inside the image. -/
def ofSection (image : Image) (header : Section) : Except Fault StringTable :=
  if image.size < header.fileOffset + header.size then
    .error (.outOfBounds
      { subject := "string table section " ++ toString header.index
        offset := header.fileOffset
        width := header.size
        length := image.size })
  else .ok { image := image, offset := header.fileOffset, size := header.size }

/-- The bytes of the name that starts at a place; the end of the table ends a name, too. -/
def nameBytes (table : StringTable) (nameOffset : Int) : List UInt8 :=
  table.image.zeroFree (table.image.clip (table.offset + nameOffset))
    (table.image.clip (table.offset + table.size))

/-- The name that starts at a place of the table. -/
def lookup (table : StringTable) (nameOffset : Int) : Except Fault String :=
  if nameOffset < 0 ∨ table.size ≤ nameOffset then
    .error (.badStringOffset nameOffset table.size)
  else .ok (Utf8.decode (table.nameBytes nameOffset))

end StringTable

/-- What stands in place of a name that cannot be read. -/
def placeholderName : String := "<corrupt>"

namespace Section

/-- A section whose name could not be read. -/
def withNameFault (header : Section) (fault : Fault) : Section :=
  { header with name := some placeholderName, nameError := some (fault.marker "name") }

/-- A section with its name looked up. -/
def resolveName (table : StringTable) (header : Section) : Section :=
  match table.lookup header.nameOffset with
  | .ok name => { header with name := some name }
  | .error fault => header.withNameFault fault

/-- The table of section names, found by the index that the file header gives. -/
def nameTable (sections : List Section) (image : Image) (index : Int) :
    Except Fault StringTable :=
  match sections[index.toNat]? with
  | some header => StringTable.ofSection image header
  | none =>
      .error (.outOfBounds
        { subject := "section name string table index"
          offset := index
          width := 1
          length := sections.length })

/-- The sections with their names looked up.  A bad place damages one name, an unusable table of
names damages all. -/
def resolveNames (sections : List Section) (image : Image) (index : Int) : List Section :=
  match nameTable sections image index with
  | .ok table => sections.map (resolveName table)
  | .error fault => sections.map fun header => header.withNameFault fault

/-- The section that another one links to; index zero links to nothing. -/
def linked? (sections : List Section) (header : Section) : Option Section :=
  if 0 < header.link then sections[header.link.toNat]? else none

end Section
end ElfInspect
