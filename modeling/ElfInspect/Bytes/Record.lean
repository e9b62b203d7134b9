import ElfInspect.Bytes.Image
import ElfInspect.Fault

/-!
# Records

A layout lists the fields of a record by place and width.  Reading a layout yields a record, the
values of its fields; a record fits into an image exactly as far as its layout extends.
-/

namespace ElfInspect

namespace Image

/-- The word of a given width at a given offset, in a given byte order. -/
def word (image : Image) (order : ByteOrder) (offset width : Int) : Except Fault Nat :=
  if width = 1 ∨ width = 2 ∨ width = 4 ∨ width = 8 then
    if 0 ≤ offset ∧ offset + width ≤ image.size then
      .ok (Word.decode order (image.slice offset.toNat (offset + width).toNat))
    else
      .error (.outOfBounds
        { subject := "read", offset := offset, width := width, length := image.size })
  else
    .error (.unsupportedWidth width)

/-- The word at an offset as an unsigned integer. -/
def unsigned (image : Image) (order : ByteOrder) (offset width : Int) : Except Fault Int :=
  (image.word order offset width).map fun word => (word : Int)

/-- The word at an offset as a two's complement integer. -/
def signed (image : Image) (order : ByteOrder) (offset width : Int) : Except Fault Int :=
  (image.word order offset width).map (Word.signed width.toNat)

end Image

/-- A field of a record. -/
structure Field (ι : Type) where
  /-- The name of the field. -/
  name : ι
  /-- Where the field starts in the record. -/
  offset : Int
  /-- How many bytes the field has. -/
  width : Int
  deriving Repr

/-- The fields of a record in the order of reading. -/
abbrev Layout (ι : Type) := List (Field ι)

/-- The values of fields, each name once. -/
abbrev Record (ι : Type) := List (ι × Int)

namespace Record

/-- The record with a field set: a new field comes last, a known one keeps its place. -/
def put {ι : Type} [DecidableEq ι] (name : ι) (value : Int) : Record ι → Record ι
  | [] => [(name, value)]
  | (key, known) :: rest =>
      if key = name then (key, value) :: rest else (key, known) :: put name value rest

/-- The value of a field. -/
def value? {ι : Type} [DecidableEq ι] (name : ι) : Record ι → Option Int
  | [] => none
  | (key, value) :: rest => if key = name then some value else value? name rest

/-- The value of a field, zero if the record lacks it. -/
def get {ι : Type} [DecidableEq ι] (record : Record ι) (name : ι) : Int :=
  (value? name record).getD 0

theorem value?_put {ι : Type} [DecidableEq ι] (record : Record ι) (name other : ι) (value : Int) :
    value? other (put name value record) =
      if name = other then some value else value? other record := by
  induction record with
  | nil => rfl
  | cons field rest ih =>
      obtain ⟨key, known⟩ := field
      by_cases known_name : key = name <;> by_cases known_other : key = other <;>
        grind [put, value?]

end Record

namespace Layout

/-- The end of the field that ends last, unless there is no field. -/
def extent? {ι : Type} : Layout ι → Option Int
  | [] => none
  | field :: rest =>
      match extent? rest with
      | none => some (field.offset + field.width)
      | some later => some (max (field.offset + field.width) later)

/-- The size of the records of a layout. -/
def size {ι : Type} (layout : Layout ι) : Int := (extent? layout).getD 0

/-- The record that starts at `base`, its fields read in layout order. -/
def read {ι : Type} [DecidableEq ι] (layout : Layout ι) (image : Image) (order : ByteOrder)
    (base : Int) : Except Fault (Record ι) :=
  layout.foldlM
    (fun record field => do
      let value ← image.unsigned order (base + field.offset) field.width
      return record.put field.name value)
    []

end Layout
end ElfInspect
