import ElfInspect.Bytes.Record

/-!
# Tables with a declared stride

A table is a run of entries at equal distances.  The distance is declared by the file: it may exceed
the record that is read from each entry, but never fall short of it.
-/

namespace ElfInspect
namespace Table

/-- Accepts an entry size that is at least the size of the record. -/
def checkEntrySize (entrySize recordSize : Int) (table : String) : Except Fault Unit :=
  if entrySize = 0 then .error (.zeroEntrySize table)
  else if entrySize < recordSize then .error (.shortEntrySize table entrySize recordSize)
  else .ok ()

/-- Accepts a table that ends inside data of a given length. -/
def checkExtent (length offset entrySize count : Int) (table : String) : Except Fault Unit :=
  if length < offset + entrySize * count then
    .error (.outOfBounds
      { subject := table, offset := offset, width := entrySize * count, length := length })
  else .ok ()

/-- The results of `read` from `index` on, `remaining` of them or up to the first that is the last
by `isLast`, behind the results already collected in reverse. -/
def collectFrom {ε α : Type} (isLast : α → Bool) (read : Nat → Except ε α) :
    (index remaining : Nat) → (collected : List α) → Except ε (List α)
  | _, 0, collected => .ok collected.reverse
  | index, remaining + 1, collected =>
      match read index with
      | .error fault => .error fault
      | .ok entry =>
          if isLast entry then .ok (entry :: collected).reverse
          else collectFrom isLast read (index + 1) remaining (entry :: collected)

/-- The first `count` results of `read`, unless one of them fails. -/
def collect {ε α : Type} (count : Nat) (read : Nat → Except ε α) : Except ε (List α) :=
  collectFrom (fun _ => false) read 0 count []

/-- The first `count` results of `read` or fewer, if one before is the last. -/
def collectUntil {ε α : Type} (isLast : α → Bool) (count : Nat) (read : Nat → Except ε α) :
    Except ε (List α) :=
  collectFrom isLast read 0 count []

end Table

/-- A table of program or section headers as the file header declares it. -/
structure HeaderTable where
  /-- What an entry is called. -/
  entryName : String
  offset : Int
  entrySize : Int
  count : Int

namespace HeaderTable

/-- What the table is called. -/
def name (table : HeaderTable) : String := table.entryName ++ " table"

/-- The record of the entry at an index, if the whole entry lies inside the image. -/
def readEntry {ι : Type} [DecidableEq ι] (table : HeaderTable) (layout : Layout ι) (image : Image)
    (order : ByteOrder) (index : Nat) : Except Fault (Record ι) :=
  let offset := table.offset + index * table.entrySize
  if image.size < offset + table.entrySize then
    .error (.outOfBounds
      { subject := table.entryName ++ " " ++ toString index
        offset := offset
        width := table.entrySize
        length := image.size })
  else layout.read image order offset

/-- The records of a table in table order. -/
def read {ι : Type} [DecidableEq ι] (table : HeaderTable) (layout : Layout ι) (image : Image)
    (order : ByteOrder) : Except Fault (List (Record ι)) :=
  if table.count = 0 then .ok []
  else do
    Table.checkEntrySize table.entrySize layout.size table.name
    Table.checkExtent image.size table.offset table.entrySize table.count table.name
    Table.collect table.count.toNat (table.readEntry layout image order)

end HeaderTable

end ElfInspect
