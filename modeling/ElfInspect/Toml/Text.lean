/-!
# Texts in settings documents

The scanners of this module take the rest of a document and return what they found together with
what follows it, or nothing if the document is ill formed.
-/

namespace ElfInspect
namespace Toml

/-- A reason for which a document has no values. -/
inductive Flaw where
  /-- The document is not well formed. -/
  | malformed
  /-- A decimal number has more digits than it may have. -/
  | numberTooLong
  /-- Values nest deeper than they may. -/
  | tooDeep
  deriving DecidableEq, Repr

/-- What a scanner found, which the document has to hold to be well formed. -/
def demand {α : Type} : Option α → Except Flaw α
  | some found => .ok found
  | none => .error .malformed

/-- Whether a character is a blank inside a line. -/
def isBlank (char : Char) : Bool := char = ' ' || char = '\t'

/-- Whether a character is a control character that no text and no comment may hold. -/
def isIllegal (char : Char) : Bool :=
  (char.toNat < 0x20 && char ≠ '\t') || char.toNat = 0x7F

/-- The document after the blanks at its start. -/
def skipBlanks (chars : List Char) : List Char := chars.dropWhile isBlank

/-- The document after a comment, if it starts with one. -/
def skipComment : List Char → Option (List Char)
  | '#' :: rest =>
      if (rest.takeWhile (· ≠ '\n')).any isIllegal then none
      else some (rest.dropWhile (· ≠ '\n'))
  | chars => some chars

/-- The value of a digit in a base of at most sixteen. -/
def digit? (base : Nat) (char : Char) : Option Nat :=
  let value :=
    if '0' ≤ char ∧ char ≤ '9' then char.toNat - 48
    else if 'a' ≤ char ∧ char ≤ 'f' then char.toNat - 87
    else if 'A' ≤ char ∧ char ≤ 'F' then char.toNat - 55
    else base
  if value < base then some value else none

/-- Where the scanning of a text stands. -/
inductive TextState where
  /-- Among the characters of the text. -/
  | plain
  /-- Behind a backslash. -/
  | escape
  /-- Inside the code of a character, with one more than `owed` digits to come. -/
  | code (owed value : Nat)
  /-- Among the blanks between a backslash and the end of its line. -/
  | lineEnd
  /-- Among the blanks and line breaks that an escaped line break swallows. -/
  | lineStart
  deriving DecidableEq

/-- The character with a code, unless the code belongs to no character. -/
def charOfCode? (code : Nat) : Option Char :=
  if code.isValidChar then some (Char.ofNat code) else none

/-- The character that a letter behind a backslash stands for. -/
def escapedChar? : Char → Option Char
  | 'b' => some (Char.ofNat 8)
  | 't' => some '\t'
  | 'n' => some '\n'
  | 'f' => some (Char.ofNat 12)
  | 'r' => some '\r'
  | '"' => some '"'
  | '\\' => some '\\'
  | _ => none

/-- What follows three closing marks: up to two more of them belong to the text. -/
def closeLong (mark : Char) : List Char → List Char × List Char
  | first :: second :: rest =>
      if first = mark then
        if second = mark then ([mark, mark], rest) else ([mark], second :: rest)
      else ([], first :: second :: rest)
  | [only] => if only = mark then ([mark], []) else ([], [only])
  | [] => ([], [])

/-- A text up to its closing double quote, or to three of them if it may take several lines.
Backslashes escape. -/
def basicText (long : Bool) : TextState → List Char → Option (List Char × List Char)
  | _, [] => none
  | .escape, char :: rest =>
      if char = 'u' then basicText long (.code 3 0) rest
      else if char = 'U' then basicText long (.code 7 0) rest
      else if long ∧ isBlank char then basicText long .lineEnd rest
      else if long ∧ char = '\n' then basicText long .lineStart rest
      else do
        let escaped ← escapedChar? char
        let (text, after) ← basicText long .plain rest
        return (escaped :: text, after)
  | .code 0 value, char :: rest => do
      let digit ← digit? 16 char
      let coded ← charOfCode? (16 * value + digit)
      let (text, after) ← basicText long .plain rest
      return (coded :: text, after)
  | .code (owed + 1) value, char :: rest => do
      let digit ← digit? 16 char
      basicText long (.code owed (16 * value + digit)) rest
  | .lineEnd, char :: rest =>
      if isBlank char then basicText long .lineEnd rest
      else if char = '\n' then basicText long .lineStart rest
      else none
  | state, char :: rest =>
      if state = .lineStart ∧ (isBlank char ∨ char = '\n') then basicText long .lineStart rest
      else if char = '\\' then basicText long .escape rest
      else if char = '"' then
        if long then
          match rest with
          | '"' :: '"' :: after => some (closeLong '"' after)
          | _ => do
              let (text, after) ← basicText long .plain rest
              return ('"' :: text, after)
        else some ([], rest)
      else if isIllegal char ∧ ¬(long ∧ char = '\n') then none
      else do
        let (text, after) ← basicText long .plain rest
        return (char :: text, after)

/-- A text up to its closing apostrophe, or to three of them if it may take several lines.
Nothing is escaped. -/
def literalText (long : Bool) : List Char → Option (List Char × List Char)
  | [] => none
  | char :: rest =>
      if char = '\'' then
        if long then
          match rest with
          | '\'' :: '\'' :: after => some (closeLong '\'' after)
          | _ => do
              let (text, after) ← literalText long rest
              return ('\'' :: text, after)
        else some ([], rest)
      else if isIllegal char ∧ ¬(long ∧ char = '\n') then none
      else do
        let (text, after) ← literalText long rest
        return (char :: text, after)

end Toml
end ElfInspect
