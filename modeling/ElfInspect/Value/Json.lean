import ElfInspect.Text.Numeral
import ElfInspect.Value.Basic

/-!
# Values as JSON

`Value.json` writes a value over several lines, two spaces deeper at each level, in ASCII alone.
`Value.jsonInline` writes it on one line and keeps all characters but the control characters.
-/

namespace ElfInspect
namespace Json

/-- The escape of a 16-bit unit. -/
def unitEscape (unit : Nat) : List Char :=
  '\\' :: 'u' :: Numeral.zeroFill 4 (Numeral.hexDigits unit)

/-- The escape of a character by its code: beyond 16 bits it takes a surrogate pair. -/
def codeEscape (code : Nat) : List Char :=
  if code < 0x10000 then unitEscape code
  else
    unitEscape (0xD800 + (code - 0x10000) / 0x400) ++
      unitEscape (0xDC00 + (code - 0x10000) % 0x400)

/-- A character inside a JSON text, with the characters that `keep` rejects escaped by code. -/
def escape (keep : Char → Bool) (char : Char) : List Char :=
  if char = '"' then ['\\', '"']
  else if char = '\\' then ['\\', '\\']
  else if char = '\n' then ['\\', 'n']
  else if char = '\r' then ['\\', 'r']
  else if char = '\t' then ['\\', 't']
  else if char.toNat = 8 then ['\\', 'b']
  else if char.toNat = 12 then ['\\', 'f']
  else if keep char then [char]
  else codeEscape char.toNat

/-- The printable ASCII characters. -/
def isPlain (char : Char) : Bool := 0x20 ≤ char.toNat && char.toNat < 0x7F

/-- The characters from the blank on; those before it are controls. -/
def isNoControl (char : Char) : Bool := 0x20 ≤ char.toNat

/-- A text between double quotes. -/
def quote (keep : Char → Bool) (content : String) : List Char :=
  '"' :: content.toList.flatMap (escape keep) ++ ['"']

/-- The decimal numeral of an integer. -/
def numeral (value : Int) : List Char := (toString value).toList

/-- A line break and the indentation of a level. -/
def lineBreak (level : Nat) : List Char := '\n' :: List.replicate (2 * level) ' '

mutual

/-- A value that stands at a level, over as many lines as it has parts. -/
def write (level : Nat) : Value → List Char
  | .null => "null".toList
  | .boolean true => "true".toList
  | .boolean false => "false".toList
  | .integer value => numeral value
  | .fraction numeral => numeral.toList
  | .moment content => quote isPlain content
  | .text value => quote isPlain value
  | .list [] => "[]".toList
  | .list (item :: rest) =>
      '[' :: lineBreak (level + 1) ++ write (level + 1) item ++ writeItems (level + 1) rest ++
        lineBreak level ++ [']']
  | .record [] => ['\x7b', '\x7d']
  | .record ((name, value) :: rest) =>
      '\x7b' :: lineBreak (level + 1) ++ quote isPlain name ++ ": ".toList ++
        write (level + 1) value ++ writeEntries (level + 1) rest ++ lineBreak level ++ ['\x7d']

/-- The items after the first one. -/
def writeItems (level : Nat) : List Value → List Char
  | [] => []
  | item :: rest => ',' :: lineBreak level ++ write level item ++ writeItems level rest

/-- The entries after the first one. -/
def writeEntries (level : Nat) : List (String × Value) → List Char
  | [] => []
  | (name, value) :: rest =>
      ',' :: lineBreak level ++ quote isPlain name ++ ": ".toList ++ write level value ++
        writeEntries level rest

end

mutual

/-- A value on one line. -/
def writeInline : Value → List Char
  | .null => "null".toList
  | .boolean true => "true".toList
  | .boolean false => "false".toList
  | .integer value => numeral value
  | .fraction numeral => numeral.toList
  | .moment content => quote isNoControl content
  | .text value => quote isNoControl value
  | .list [] => "[]".toList
  | .list (item :: rest) => '[' :: writeInline item ++ writeInlineItems rest ++ [']']
  | .record [] => ['\x7b', '\x7d']
  | .record ((name, value) :: rest) =>
      '\x7b' :: quote isNoControl name ++ ": ".toList ++ writeInline value ++
        writeInlineEntries rest ++ ['\x7d']

/-- The items after the first one, on one line. -/
def writeInlineItems : List Value → List Char
  | [] => []
  | item :: rest => ", ".toList ++ writeInline item ++ writeInlineItems rest

/-- The entries after the first one, on one line. -/
def writeInlineEntries : List (String × Value) → List Char
  | [] => []
  | (name, value) :: rest =>
      ", ".toList ++ quote isNoControl name ++ ": ".toList ++ writeInline value ++
        writeInlineEntries rest

end

end Json

namespace Value

/-- The value as an indented JSON document in ASCII. -/
def json (value : Value) : String := String.ofList (Json.write 0 value)

/-- The value as JSON on one line. -/
def jsonInline (value : Value) : String := String.ofList (Json.writeInline value)

end Value
end ElfInspect
