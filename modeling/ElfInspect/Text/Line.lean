import ElfInspect.Text.Columns

/-!
# Lines of text

A line is a list of characters without a line break, and its room is the number of columns that it
takes on a screen.
-/

namespace ElfInspect
namespace Line

/-- Blanks. -/
def blanks (count : Nat) : List Char := List.replicate count ' '

/-- The blank characters outside the first 128. -/
def farBlanks : List Nat :=
  [0x85, 0xA0, 0x1680, 0x2000, 0x2001, 0x2002, 0x2003, 0x2004, 0x2005, 0x2006, 0x2007, 0x2008,
    0x2009, 0x200A, 0x2028, 0x2029, 0x202F, 0x205F, 0x3000]

/-- Whether a character is white space. -/
def isBlank (char : Char) : Bool :=
  let code := char.toNat
  (9 ≤ code && code ≤ 13) || (28 ≤ code && code ≤ 32) || farBlanks.contains code

/-- Whether a character would steer a terminal: the bell, a step back, a vertical tab, a form feed
or a carriage return. -/
def isSteering (char : Char) : Bool :=
  char = '\x07' || char = '\x08' || char = '\x0b' || char = '\x0c' || char = '\x0d'

/-- Whether a character ends a line, although only the line feed breaks one when it is shown. -/
def isEnd (char : Char) : Bool :=
  let code := char.toNat
  (10 ≤ code && code ≤ 13) || (28 ≤ code && code ≤ 30) || code = 0x85 || code = 0x2028 ||
    code = 0x2029

/-- The columns that a character takes. -/
def columns (char : Char) : Nat := Columns.ofCode char.toNat

/-- The columns that a line takes. -/
def room (line : List Char) : Nat := line.foldl (fun count char => count + columns char) 0

/-- The distance between tab stops. -/
def tabWidth : Nat := 8

/-- The rest of a line behind some columns, with blanks up to the next tab stop for each tab. -/
def expandTabs : (column : Nat) → List Char → List Char
  | _, [] => []
  | column, char :: rest =>
      if char = '\t' then
        let count := tabWidth - column % tabWidth
        blanks count ++ expandTabs (column + count) rest
      else char :: expandTabs (column + columns char) rest

/-- The characters of a line without the white space at its end. -/
def trimEnd (line : List Char) : List Char := (line.reverse.dropWhile isBlank).reverse

/-- The longest beginning of a line that takes no more columns than there are left.  A blank stands
for half of a wide character. -/
def fitting : (left : Nat) → List Char → List Char
  | _, [] => []
  | left, char :: rest =>
      if columns char ≤ left then char :: fitting (left - columns char) rest else blanks left

/-- A line cut to some columns. -/
def cut (width : Nat) (line : List Char) : List Char :=
  if width = 0 then [] else fitting width line

/-- A line with blanks behind it up to some columns. -/
def fill (width : Nat) (line : List Char) : List Char := line ++ blanks (width - room line)

/-- Puts an item in front of the first of several lists. -/
def consFirst {α : Type} (item : α) : List (List α) → List (List α)
  | [] => [[item]]
  | first :: rest => (item :: first) :: rest

/-- The lines into which the characters fall that end lines. -/
def split : List Char → List (List Char)
  | [] => [[]]
  | char :: rest => if isEnd char then [] :: split rest else consFirst char (split rest)

/-- Whether characters make up more than one line, each of which may be empty. -/
def areSeveral : List Char → Bool
  | [] => false
  | '\r' :: '\n' :: rest => !rest.isEmpty
  | char :: rest => if isEnd char then !rest.isEmpty else areSeveral rest

/-- The greatest room that one of several lines takes. -/
def widest (lines : List (List Char)) : Nat :=
  lines.foldl (fun width line => max width (room line)) 0

end Line
end ElfInspect
