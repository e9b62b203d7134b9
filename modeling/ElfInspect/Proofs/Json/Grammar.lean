import ElfInspect.Value.Basic

/-!
# The grammar of JSON

Which value a JSON text stands for, whoever wrote it: blanks may stand around every part, and a
character may be spelled in several ways.  A number with a fraction or an exponent, half of a
surrogate pair and a record with two entries of one name stand for no value.
-/

namespace ElfInspect
namespace Json

/-- Nothing but white space. -/
def Blank (text : List Char) : Prop := ∀ char ∈ text, char ∈ [' ', '\t', '\n', '\r']

/-! ## Texts -/

/-- The value of a hexadecimal digit of either case. -/
def hexValue? (digit : Char) : Option Nat :=
  if digit.isDigit then some (digit.toNat - 48)
  else if 'a' ≤ digit ∧ digit ≤ 'f' then some (digit.toNat - 87)
  else if 'A' ≤ digit ∧ digit ≤ 'F' then some (digit.toNat - 55)
  else none

/-- The 16-bit unit of four hexadecimal digits. -/
def unit? : List Char → Option Nat
  | [first, second, third, fourth] => do
    return 0x1000 * (← hexValue? first) + 0x100 * (← hexValue? second) +
      0x10 * (← hexValue? third) + (← hexValue? fourth)
  | _ => none

/-- The letters that stand for a character behind a backslash. -/
def letters : List (Char × Char) :=
  [('"', '"'), ('\\', '\\'), ('/', '/'), ('b', Char.ofNat 8), ('f', Char.ofNat 12), ('n', '\n'),
    ('r', '\r'), ('t', '\t')]

/-- No character has the code of half a surrogate pair. -/
theorem code_range (char : Char) :
    char.toNat < 0xD800 ∨ 0xDFFF < char.toNat ∧ char.toNat < 0x110000 :=
  char.valid

/-- The spellings of a character inside a text. -/
inductive Spells : List Char → Char → Prop where
  | plain {char : Char} (visible : 0x20 ≤ char.toNat) (no_quote : char ≠ '"')
      (no_backslash : char ≠ '\\') : Spells [char] char
  | letter {letter char : Char} (listed : (letter, char) ∈ letters) : Spells ['\\', letter] char
  | unit {digits : List Char} {char : Char} (unit_eq : unit? digits = some char.toNat) :
      Spells ('\\' :: 'u' :: digits) char
  | surrogates {highDigits lowDigits : List Char} {high low : Nat} {char : Char}
      (high_eq : unit? highDigits = some high) (low_eq : unit? lowDigits = some low)
      (high_range : 0xD800 ≤ high ∧ high < 0xDC00) (low_range : 0xDC00 ≤ low ∧ low < 0xE000)
      (code_eq : char.toNat = 0x10000 + 0x400 * (high - 0xD800) + (low - 0xDC00)) :
      Spells ('\\' :: 'u' :: highDigits ++ '\\' :: 'u' :: lowDigits) char

/-- The spellings of characters one after the other. -/
inductive SpellsAll : List Char → List Char → Prop where
  | nil : SpellsAll [] []
  | cons {front back chars : List Char} {char : Char} (first : Spells front char)
      (rest : SpellsAll back chars) : SpellsAll (front ++ back) (char :: chars)

/-- A text stands between double quotes. -/
inductive Quotes : List Char → String → Prop where
  | intro {spelling : List Char} {content : String} (spells : SpellsAll spelling content.toList) :
      Quotes ('"' :: spelling ++ ['"']) content

/-! ## Numbers -/

/-- Digits without leading zeros are the numeral of a number. -/
structure IsNatural (digits : List Char) (value : Nat) : Prop where
  nonempty : digits ≠ []
  all_digits : ∀ digit ∈ digits, digit.isDigit
  no_leading_zero : digits.head? = some '0' → digits = ['0']
  value_eq : Nat.ofDigitChars 10 digits 0 = value

/-- Digits, perhaps behind a minus sign, are the numeral of an integer. -/
inductive IsInteger : List Char → Int → Prop where
  | natural {digits : List Char} {value : Nat} (numeral : IsNatural digits value) :
      IsInteger digits value
  | negative {digits : List Char} {value : Nat} (numeral : IsNatural digits value) :
      IsInteger ('-' :: digits) (-value)

/-! ## Values -/

section Parts

variable {α : Type}

/-- A part stands between blanks. -/
inductive Padded (Part : List Char → α → Prop) : List Char → α → Prop where
  | intro {front text back : List Char} {item : α} (before : Blank front) (part : Part text item)
      (after : Blank back) : Padded Part (front ++ text ++ back) item

/-- Parts stand one after the other with commas between them. -/
inductive Parted (Part : List Char → α → Prop) : List Char → List α → Prop where
  | last {text : List Char} {item : α} (part : Part text item) : Parted Part text [item]
  | more {text rest : List Char} {item : α} {items : List α} (part : Part text item)
      (others : Parted Part rest items) : Parted Part (text ++ ',' :: rest) (item :: items)

/-- A part stands behind its name and a colon. -/
inductive Named (Part : List Char → α → Prop) : List Char → String × α → Prop where
  | intro {label front back text : List Char} {name : String} {item : α}
      (quotes : Quotes label name) (before : Blank front) (after : Blank back)
      (part : Part text item) : Named Part (label ++ front ++ ':' :: back ++ text) (name, item)

end Parts

/-- A text without blanks around it stands for a value. -/
inductive Means : List Char → Value → Prop where
  | null : Means "null".toList .null
  | truth : Means "true".toList (.boolean true)
  | falsehood : Means "false".toList (.boolean false)
  | integer {text : List Char} {value : Int} (numeral : IsInteger text value) :
      Means text (.integer value)
  | text {text : List Char} {content : String} (quotes : Quotes text content) :
      Means text (.text content)
  | emptyList {text : List Char} (blank : Blank text) : Means ('[' :: text ++ [']']) (.list [])
  | list {text : List Char} {items : List Value} (parts : Parted (Padded Means) text items) :
      Means ('[' :: text ++ [']']) (.list items)
  | emptyRecord {text : List Char} (blank : Blank text) :
      Means ('\x7b' :: text ++ ['\x7d']) (.record [])
  | record {text : List Char} {entries : List (String × Value)}
      (parts : Parted (Padded (Named Means)) text entries)
      (distinct : (entries.map Prod.fst).Nodup) :
      Means ('\x7b' :: text ++ ['\x7d']) (.record entries)

/-- A parser returns the value of each text that stands for one. -/
def Conforms (parse : String → Option Value) : Prop :=
  ∀ text value, Padded Means text.toList value → parse text = some value

end Json
end ElfInspect
