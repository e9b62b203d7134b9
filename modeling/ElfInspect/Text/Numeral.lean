/-!
# Numbers in text

Hexadecimal numerals, numerals of a least width, and decimal numerals with their thousands set
apart by commas.  A negative number is its magnitude after a minus sign.
-/

namespace ElfInspect
namespace Numeral

/-- The hexadecimal digits of a natural number, in lower case. -/
def hexDigits (value : Nat) : List Char := Nat.toDigits 16 value

/-- Digits filled up with leading zeros to a least width. -/
def zeroFill (width : Nat) (digits : List Char) : List Char :=
  List.replicate (width - digits.length) '0' ++ digits

/-- A number as sign and digits, filled up with zeros after the sign. -/
def signed (width : Nat) (digits : Nat → List Char) (value : Int) : String :=
  if value < 0 then String.ofList ('-' :: zeroFill (width - 1) (digits value.natAbs))
  else String.ofList (zeroFill width (digits value.natAbs))

/-- The shortest hexadecimal numeral. -/
def hex (value : Int) : String := signed 0 hexDigits value

/-- The hexadecimal numeral of at least `width` characters. -/
def hexFill (width : Nat) (value : Int) : String := signed width hexDigits value

/-- The decimal numeral of at least `width` characters. -/
def decimalFill (width : Nat) (value : Int) : String := signed width (Nat.toDigits 10) value

/-- Digits, the last one first, with a comma after every third. -/
def groupReversed : List Char → List Char
  | a :: b :: c :: d :: rest => a :: b :: c :: ',' :: groupReversed (d :: rest)
  | digits => digits

/-- The decimal numeral with commas between groups of three digits. -/
def grouped (value : Int) : String :=
  signed 0 (fun magnitude => (groupReversed (Nat.toDigits 10 magnitude).reverse).reverse) value

end Numeral
end ElfInspect
