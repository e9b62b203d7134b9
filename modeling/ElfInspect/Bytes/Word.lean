/-!
# Fixed-width words

A word is a number written in a fixed count of bytes.  `Word.decode` and `Word.encode` read and
write it in either byte order, and `Word.signed` reads a word as two's complement.
-/

namespace ElfInspect

/-- Order in which a multi-byte word is stored. -/
inductive ByteOrder where
  /-- Least significant byte first. -/
  | little
  /-- Most significant byte first. -/
  | big
  deriving DecidableEq, Repr

namespace ByteOrder

/-- The code of a byte order in the identification block. -/
def code : ByteOrder → Nat
  | little => 1
  | big => 2

/-- The byte order with a given code. -/
def ofCode? (code : Int) : Option ByteOrder :=
  if code = 1 then some little else if code = 2 then some big else none

/-- The word for a byte order in messages. -/
def name : ByteOrder → String
  | little => "little"
  | big => "big"

theorem ofCode?_code (order : ByteOrder) : ofCode? order.code = some order := by
  cases order <;> rfl

end ByteOrder

namespace Word

/-- The number whose bytes are given least significant first. -/
def ofLittle : List UInt8 → Nat
  | [] => 0
  | byte :: rest => byte.toNat + 256 * ofLittle rest

/-- The lowest `width` bytes of a number, least significant first. -/
def toLittle : (width value : Nat) → List UInt8
  | 0, _ => []
  | width + 1, value => UInt8.ofNat (value % 256) :: toLittle width (value / 256)

/-- The number that a word stands for. -/
def decode : ByteOrder → List UInt8 → Nat
  | .little, bytes => ofLittle bytes
  | .big, bytes => ofLittle bytes.reverse

/-- The word of `width` bytes that stands for a number. -/
def encode : ByteOrder → (width value : Nat) → List UInt8
  | .little, width, value => toLittle width value
  | .big, width, value => (toLittle width value).reverse

/-- How many words of `width` bytes there are. -/
def count : (width : Nat) → Nat
  | 0 => 1
  | width + 1 => 256 * count width

/-- The two's complement reading of a word of `width` bytes. -/
def signed (width word : Nat) : Int :=
  if 2 * word < count width then word else word - count width

end Word

end ElfInspect
