import ElfInspect.Console
import ElfInspect.Value.Outline

/-!
# Printed values

Values can be printed one behind the other.  Those without parts share a text; a list or a record is
a passage of its own.  Passages that are aligned keep their lines together: they are set along a
side as one block.
-/

namespace ElfInspect

/-- What is printed in one go. -/
inductive Passage where
  /-- An empty line. -/
  | blank
  /-- The text of values without parts. -/
  | row (content : String)
  /-- A list or a record. -/
  | tree (value : Value)

namespace Passage

/-- The passage of texts, if there are any. -/
def ofTexts (separator : String) (texts : List String) : List Passage :=
  if texts.isEmpty then [] else [row (separator.intercalate texts)]

/-- The passages of values behind texts that wait to be printed. -/
def ofValuesBehind (separator : String) : (waiting : List String) → List Value → List Passage
  | waiting, [] => ofTexts separator waiting
  | waiting, value :: rest =>
      match value with
      | .list _ | .record _ =>
          ofTexts separator waiting ++ tree value :: ofValuesBehind separator [] rest
      | _ => ofValuesBehind separator (waiting ++ [value.display]) rest

/-- The passages of values, with a separator between those that share a text. -/
def ofValues (separator : String) (values : List Value) : List Passage :=
  ofValuesBehind separator [] values

/-- Whether a passage is the text of values without parts. -/
def isRow : Passage → Bool
  | row _ => true
  | _ => false

/-- The width that a passage needs, up to a limit.  An empty line asks for all of it. -/
def needed (limit : Nat) : Passage → Nat
  | blank => limit
  | row content => min (Flow.room content) limit
  | tree value => min (Flow.room (value.outline limit)) limit

/-- Lines as one text. -/
def joined (lines : List (List Char)) : String := "\n".intercalate (lines.map String.ofList)

/-- The text of a passage.  The ending follows the text of values only. -/
def text (flow : Flow) (ending : String) : Passage → String
  | blank => "\n"
  | row content => joined (flow.lines content) ++ ending
  | tree value =>
      joined (({ flow with isWrapped := true } : Flow).lines (value.outline flow.width)) ++ "\n"

end Passage

/-- How values are printed. -/
structure Printing where
  /-- How their texts flow. -/
  flow : Flow
  /-- The width of the console. -/
  width : Nat
  /-- What stands behind the text of values. -/
  ending : String := "\n"
  /-- Whether several lines start on a line of their own. -/
  startsLine : Bool := false
  /-- Whether lines are cut at the width of the console. -/
  isCropped : Bool := true

namespace Printing

/-- Lines set along a side as one block. -/
def block (side : Side) (width : Nat) (lines : List (List Char)) : List (List Char) :=
  let inner := Line.widest lines
  let before :=
    match side with
    | .left => 0
    | .center => (width - inner) / 2
    | .right => width - inner
  lines.map fun line => Line.fill (max width inner) (Line.blanks before ++ Line.fill inner line)

/-- Whether a passage is printed at all: one that is aligned needs some width. -/
def shows (printing : Printing) (passage : Passage) : Bool :=
  match printing.flow.fit with
  | .along _ => passage.needed printing.flow.width != 0
  | _ => printing.flow.width != 0

/-- The text of a passage. -/
def passageText (printing : Printing) (passage : Passage) : String :=
  if !printing.shows passage then ""
  else
    match printing.flow.fit with
    | .along side =>
        let flow := { printing.flow with width := passage.needed printing.flow.width }
        let lines := (Console.linesOf (passage.text flow printing.ending)).map String.toList
        Passage.joined (block side printing.flow.width lines) ++ "\n"
    | _ => passage.text printing.flow printing.ending

/-- A text whose lines are cut at the width of the console. -/
def crop (width : Nat) (content : String) : String :=
  Passage.joined ((content.splitOn "\n").map fun line => Line.cut width line.toList)

/-- The text of passages. -/
def text (printing : Printing) (passages : List Passage) : String :=
  let content := String.join (passages.map printing.passageText)
  let content :=
    if printing.startsLine && Line.areSeveral content.toList then "\n" ++ content else content
  if printing.isCropped then crop printing.width content else content

end Printing
end ElfInspect
