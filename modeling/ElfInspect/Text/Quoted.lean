import ElfInspect.Text.Numeral
import ElfInspect.Text.Visibility

/-!
# Quoted text

Messages show bytes and names between quotes.  The quote is an apostrophe, or a double quote when
the content has an apostrophe and no double quote; backslashes, the chosen quote and whatever is
not visible are escaped.
-/

namespace ElfInspect
namespace Quoted

/-- The quote for a content. -/
def mark (content : List Char) : Char :=
  if '\'' ∈ content ∧ '"' ∉ content then '"' else '\''

/-- The escape of a code in two, four or eight hexadecimal digits. -/
def codeEscape (code : Nat) : List Char :=
  let (letter, width) : Char × Nat :=
    if code < 0x100 then ('x', 2) else if code < 0x10000 then ('u', 4) else ('U', 8)
  '\\' :: letter :: Numeral.zeroFill width (Numeral.hexDigits code)

/-- A character as it appears between quotes. -/
def escape (quote char : Char) : List Char :=
  if char = '\\' ∨ char = quote then ['\\', char]
  else if char = '\t' then ['\\', 't']
  else if char = '\n' then ['\\', 'n']
  else if char = '\r' then ['\\', 'r']
  else if Visibility.isVisible char then [char]
  else codeEscape char.toNat

/-- A text between quotes. -/
def text (content : String) : String :=
  let quote := mark content.toList
  String.ofList (quote :: content.toList.flatMap (escape quote) ++ [quote])

/-- A byte as it appears between quotes: only printable ASCII appears as it is. -/
def escapeByte (quote : Char) (byte : UInt8) : List Char :=
  if byte < 0x7F then escape quote (Char.ofNat byte.toNat) else codeEscape byte.toNat

/-- A byte sequence between quotes, after the letter `b`. -/
def bytes (content : List UInt8) : String :=
  let quote := mark (content.map fun byte => Char.ofNat byte.toNat)
  String.ofList ('b' :: quote :: content.flatMap (escapeByte quote) ++ [quote])

end Quoted
end ElfInspect
