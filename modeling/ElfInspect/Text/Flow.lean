import ElfInspect.Text.Line

/-!
# Flowing text

A text flows onto lines of a limited width.  Characters that would steer a terminal are left out and
tabs become blanks.  A line that is too long is broken between words, and a word that is longer than
a line is broken itself; other ways to treat such lines and words can be asked for.
-/

namespace ElfInspect

/-- The side along which the lines of a text are aligned. -/
inductive Side where
  | left
  | center
  | right
  deriving DecidableEq, Repr

/-- How lines are fitted to their width. -/
inductive Fit where
  /-- They are left as they are. -/
  | free
  /-- They are filled up with blanks. -/
  | along (side : Side)
  /-- The blanks between their words are widened, but for the last line of a paragraph. -/
  | full
  deriving DecidableEq, Repr

/-- What becomes of a word that is longer than a line. -/
inductive Overflow where
  /-- It goes on in the next line. -/
  | fold
  /-- It is cut at the end of the line. -/
  | crop
  /-- It is cut at the end of the line, with a sign that something is missing. -/
  | ellipsis
  /-- It is left alone, and all lines are. -/
  | ignore
  deriving DecidableEq, Repr

/-- How a text flows. -/
structure Flow where
  /-- The columns of a line. -/
  width : Nat
  /-- How lines are fitted to their width. -/
  fit : Fit := .free
  /-- What becomes of a word that is longer than a line. -/
  overflow : Overflow := .fold
  /-- Whether lines are broken between words. -/
  isWrapped : Bool := true
  deriving Repr

namespace Flow

/-! ## Breaking -/

/-- The words of the rest of a line, each with the white space behind it; the first word also has
the white space in front of it.  The flag tells whether the first word has begun before the rest. -/
def words : (hasBegun : Bool) → List Char → List (List Char)
  | _, [] => [[]]
  | _, [char] => [[char]]
  | hasBegun, char :: next :: rest =>
      let later := words (hasBegun || !Line.isBlank char) (next :: rest)
      if hasBegun && Line.isBlank char && !Line.isBlank next then [char] :: later
      else Line.consFirst char later

/-- The pieces of a word that take at most a given number of columns each, if the first one has
another number left. -/
def pieces (width : Nat) : (left : Nat) → List Char → List (List Char)
  | _, [] => [[]]
  | left, char :: rest =>
      let size := Line.columns char
      if size ≤ left then Line.consFirst char (pieces width (left - size) rest)
      else [] :: Line.consFirst char (pieces width (width - size) rest)

/-- The lines that words take behind what is already on the first line. -/
def place (flow : Flow) : (line : List Char) → List (List Char) → List (List Char)
  | line, [] => [line]
  | line, word :: rest =>
      let size := Line.room (Line.trimEnd word)
      if Line.room line + size ≤ flow.width then flow.place (line ++ word) rest
      else
        let before := if line.isEmpty then [] else [line]
        if flow.width < size && flow.overflow = .fold then
          let parts := pieces flow.width flow.width word
          let parts := if line.isEmpty then parts.dropWhile List.isEmpty else parts
          before ++ parts.dropLast ++ flow.place (parts.getLastD []) rest
        else before ++ flow.place word rest

/-- A line without as much of the white space at its end as reaches beyond the width. -/
def cropEnd (width : Nat) (line : List Char) : List Char :=
  line.take (max width (Line.trimEnd line).length)

/-- The lines into which a paragraph is broken. -/
def broken (flow : Flow) (paragraph : List Char) : List (List Char) :=
  if !flow.isWrapped || Line.room paragraph ≤ flow.width then [paragraph]
  else flow.place [] (words false paragraph)

/-! ## Fitting -/

/-- The sign that something is missing. -/
def missing : Char := '…'

/-- A line that takes no more columns than it may. -/
def cut (flow : Flow) (line : List Char) : List Char :=
  if Line.room line ≤ flow.width then line
  else
    match flow.overflow with
    | .ellipsis => Line.cut (flow.width - 1) line ++ [missing]
    | _ => Line.cut flow.width line

/-- A line filled up with blanks.  White space at its end only counts as content on the left
side. -/
def align (flow : Flow) (side : Side) (line : List Char) : List Char :=
  match side with
  | .left => Line.fill flow.width (flow.cut line)
  | .center =>
      let content := flow.cut (Line.trimEnd line)
      Line.fill flow.width (Line.blanks ((flow.width - Line.room content) / 2) ++ content)
  | .right =>
      let content := flow.cut (Line.trimEnd line)
      Line.blanks (flow.width - Line.room content) ++ content

/-- The parts of a line between its blanks; a blank at its end is no part. -/
def spacedParts (line : List Char) : List (List Char) :=
  let parts := ((String.ofList line).splitOn " ").map String.toList
  if line.getLast? = some ' ' then parts.dropLast else parts

/-- Parts of a line with gaps between them: each has a given number of blanks, and the last `wider`
of them have one more. -/
def withGaps (gap wider : Nat) : List (List Char) → List Char
  | [] => []
  | [part] => part
  | part :: next :: rest =>
      part ++ Line.blanks (if rest.length < wider then gap + 1 else gap) ++
        withGaps gap wider (next :: rest)

/-- A line whose gaps are widened up to a width, from the last one on. -/
def spread (width : Nat) (line : List Char) : List Char :=
  let parts := spacedParts line
  let gaps := parts.length - 1
  let extra := width - (Line.room (line.filter (· ≠ ' ')) + gaps)
  withGaps (1 + extra / gaps) (extra % gaps) parts

/-- The lines of a paragraph, fitted to their width. -/
def fitted (flow : Flow) (lines : List (List Char)) : List (List Char) :=
  match flow.fit with
  | .free => lines
  | .along side => lines.map (flow.align side)
  | .full => lines.dropLast.map (spread flow.width) ++ lines.getLast?.toList

/-! ## Texts -/

/-- The lines that a paragraph takes. -/
def paragraph (flow : Flow) (content : List Char) : List (List Char) :=
  if flow.overflow = .ignore then [content]
  else
    (flow.fitted ((flow.broken content).map (cropEnd flow.width))).map flow.cut

/-- The characters of a text that can be shown. -/
def shown (text : String) : List Char := text.toList.filter fun char => !Line.isSteering char

/-- The lines that a text takes. -/
def lines (flow : Flow) (text : String) : List (List Char) :=
  ((String.ofList (shown text)).splitOn "\n").flatMap fun content =>
    flow.paragraph (Line.expandTabs 0 content.toList)

/-- The columns that a text needs to keep its lines.  Tabs ask for none. -/
def room (text : String) : Nat := Line.widest (Line.split (shown text))

end Flow
end ElfInspect
