import ElfInspect.Toml.Text
import ElfInspect.Value.Basic

/-!
# Numbers, dates and times in settings documents

Integers are read by their value.  Fractions, dates and times keep the text with which they are
written.
-/

namespace ElfInspect
namespace Toml

/-- The text of a document up to what follows it. -/
def written (chars after : List Char) : String :=
  String.ofList (chars.take (chars.length - after.length))

/-- The document after a given character. -/
def behind? (expected : Char) : List Char → Option (List Char)
  | [] => none
  | char :: rest => if char = expected then some rest else none

/-! ## Numbers -/

/-- The digits that go on with a number; single underscores may separate them. -/
def moreDigits (base : Nat) : List Char → List Nat × List Char
  | '_' :: char :: rest =>
      match digit? base char with
      | some digit => (digit :: (moreDigits base rest).1, (moreDigits base rest).2)
      | none => ([], '_' :: char :: rest)
  | char :: rest =>
      match digit? base char with
      | some digit => (digit :: (moreDigits base rest).1, (moreDigits base rest).2)
      | none => ([], char :: rest)
  | [] => ([], [])

/-- The digits of a number in a base, of which there is at least one. -/
def digits? (base : Nat) : List Char → Option (List Nat × List Char)
  | [] => none
  | char :: rest => do
      let digit ← digit? base char
      let (digits, after) := moreDigits base rest
      return (digit :: digits, after)

/-- The number that digits in a base write. -/
def ofDigits (base : Nat) (digits : List Nat) : Nat :=
  digits.foldl (fun value digit => base * value + digit) 0

/-- The base that a letter behind a zero stands for. -/
def basePrefix? : Char → Option Nat
  | 'x' => some 16
  | 'o' => some 8
  | 'b' => some 2
  | _ => none

/-- A number in another base than ten. -/
def based? : List Char → Option (Nat × List Char)
  | '0' :: letter :: rest => do
      let base ← basePrefix? letter
      let (digits, after) ← digits? base rest
      return (ofDigits base digits, after)
  | _ => none

/-- The document after a sign, if it starts with one. -/
def skipSign : List Char → List Char
  | '+' :: rest => rest
  | '-' :: rest => rest
  | chars => chars

/-- The digits of a decimal number before its fraction; they start with a zero only if there is no
other one. -/
def wholeDigits? : List Char → Option (List Nat × List Char)
  | '0' :: rest => some ([0], rest)
  | chars => digits? 10 chars

/-- The document after the digits behind a decimal point, if it starts with one. -/
def skipFraction (chars : List Char) : List Char :=
  match behind? '.' chars >>= digits? 10 with
  | some (_, after) => after
  | none => chars

/-- The document after an exponent, if it starts with one. -/
def skipExponent (chars : List Char) : List Char :=
  match (behind? 'e' chars <|> behind? 'E' chars).map skipSign >>= digits? 10 with
  | some (_, after) => after
  | none => chars

/-- The most digits that a decimal integer may have. -/
def longestDecimal : Nat := 4300

/-- A decimal number with or without sign, which is an integer unless it has a fraction or an
exponent. -/
def decimal (chars : List Char) : Except Flaw (Value × List Char) := do
  let (digits, rest) ← demand (wholeDigits? (skipSign chars))
  let after := skipExponent (skipFraction rest)
  let value : Int := ofDigits 10 digits
  if after.length < rest.length then return (.fraction (written chars after), after)
  else if longestDecimal < digits.length then throw .numberTooLong
  else return (.integer (if chars.head? = some '-' then -value else value), rest)

/-- The document after the word for an infinite number or for none. -/
def skipWord? : List Char → Option (List Char)
  | 'i' :: 'n' :: 'f' :: rest => some rest
  | 'n' :: 'a' :: 'n' :: rest => some rest
  | _ => none

/-- A number. -/
def number (chars : List Char) : Except Flaw (Value × List Char) :=
  match based? chars, skipWord? (skipSign chars) with
  | some (value, after), _ => .ok (.integer value, after)
  | none, some after => .ok (.fraction (written chars after), after)
  | none, none => decimal chars

/-! ## Dates and times -/

/-- The number that the next digits write, of which there are as many as given. -/
def ofNextDigits? (count : Nat) (chars : List Char) : Option (Nat × List Char) := do
  let digits ← (chars.take count).mapM (digit? 10)
  if digits.length < count then none
  return (ofDigits 10 digits, chars.drop count)

/-- The document after a number of two digits that is no larger than given. -/
def skipPair? (most : Nat) (chars : List Char) : Option (List Char) := do
  let (value, rest) ← ofNextDigits? 2 chars
  if most < value then none else some rest

/-- The document after the part of a second, if it starts with one. -/
def skipSecondPart (chars : List Char) : List Char :=
  match behind? '.' chars with
  | none => chars
  | some rest =>
      if (rest.takeWhile Char.isDigit).isEmpty then chars else rest.dropWhile Char.isDigit

/-- The document after a time of day. -/
def skipTime? (chars : List Char) : Option (List Char) := do
  let rest ← skipPair? 59 (← behind? ':' (← skipPair? 23 chars))
  let rest ← skipPair? 59 (← behind? ':' rest)
  return skipSecondPart rest

/-- The document after the distance of a time from universal time, if it starts with one. -/
def skipOffset (chars : List Char) : List Char :=
  let distance := do
    let rest ← behind? '+' chars <|> behind? '-' chars
    skipPair? 59 (← behind? ':' (← skipPair? 23 rest))
  (behind? 'Z' chars <|> behind? 'z' chars <|> distance).getD chars

/-- The document after a time of day behind a date, if there is one. -/
def skipClock (chars : List Char) : List Char :=
  match (behind? 'T' chars <|> behind? 't' chars <|> behind? ' ' chars) >>= skipTime? with
  | some rest => skipOffset rest
  | none => chars

/-- How many days a month has. -/
def daysIn (year month : Nat) : Nat :=
  if month = 2 then
    if year % 4 = 0 ∧ (year % 100 ≠ 0 ∨ year % 400 = 0) then 29 else 28
  else if [4, 6, 9, 11].contains month then 30
  else 31

/-- Whether a date is in the calendar, and what follows it.  A text with another month than the
twelve or with a day beyond the thirty-first is no date at all. -/
def date? (chars : List Char) : Option (Bool × List Char) := do
  let (year, rest) ← ofNextDigits? 4 chars
  let (month, rest) ← ofNextDigits? 2 (← behind? '-' rest)
  let (day, rest) ← ofNextDigits? 2 (← behind? '-' rest)
  if month = 0 ∨ 12 < month ∨ day = 0 ∨ 31 < day then none
  return (1 ≤ year && day ≤ daysIn year month, rest)

/-- A number, a date or a time. -/
def scalar (chars : List Char) : Except Flaw (Value × List Char) :=
  match date? chars, skipTime? chars with
  | some (false, _), _ => .error .malformed
  | some (true, rest), _ => .ok (.moment (written chars (skipClock rest)), skipClock rest)
  | none, some after => .ok (.moment (written chars after), after)
  | none, none => number chars

end Toml
end ElfInspect
