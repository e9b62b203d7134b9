/-!
# Data values

The values of settings documents, reports and log entries.  Records keep the order of their
entries.
-/

namespace ElfInspect

/-- A tree of data. -/
inductive Value where
  /-- The absent value. -/
  | null
  /-- A truth value. -/
  | boolean (value : Bool)
  /-- An integer of any size. -/
  | integer (value : Int)
  /-- A number that is written with a fraction or an exponent, or in words. -/
  | fraction (numeral : String)
  /-- A date, a time of day or both, as it is written. -/
  | moment (content : String)
  /-- A text. -/
  | text (value : String)
  /-- A sequence of values. -/
  | list (items : List Value)
  /-- Named values in order. -/
  | record (entries : List (String × Value))
  deriving Inhabited, Repr

namespace Value

/-- The value, or null where there is none. -/
def ofOption {α : Type} (convert : α → Value) : Option α → Value
  | none => null
  | some value => convert value

/-- The first entry of a record with a given name. -/
def entry? (name : String) : List (String × Value) → Option Value
  | [] => none
  | (key, value) :: rest => if key = name then some value else entry? name rest

/-- The integer that a value counts as: truth values count as one and zero. -/
def number? : Value → Option Int
  | integer value => some value
  | boolean value => some (if value then 1 else 0)
  | _ => none

/-- The values through which one can go: items of a list, characters of a text and names of a
record. -/
def items? : Value → Option (List Value)
  | text value => some (value.toList.map fun char => text (String.singleton char))
  | list items => some items
  | record entries => some (entries.map fun pair => text pair.1)
  | _ => none

/-- Whether a value is a number of any kind. -/
def isNumber : Value → Bool
  | fraction _ => true
  | value => value.number?.isSome

/-- Whether the numeral of a number has anything but zeros before its exponent. -/
def isNonzero (numeral : String) : Bool :=
  (numeral.toList.takeWhile fun char => char ≠ 'e' && char ≠ 'E').any fun char =>
    not (['0', '.', '_', '+', '-'].contains char)

/-- Whether a value is neither absent, false, zero nor empty. -/
def isTruthy : Value → Bool
  | null => false
  | boolean value => value
  | integer value => value != 0
  | fraction numeral => isNonzero numeral
  | moment _ => true
  | text value => !value.isEmpty
  | list items => !items.isEmpty
  | record entries => !entries.isEmpty

end Value
end ElfInspect
