import ElfInspect.Text.Line
import ElfInspect.Value.Display

/-!
# Outlines of values

A value stands on one line if that is short enough.  Otherwise a list or a record takes a line for
each of its parts, further in than the brackets around them.
-/

namespace ElfInspect
namespace Value

/-- How much further in the parts of a value stand than its brackets. -/
def indentation : Nat := 4

/-- The columns that a part of a value keeps free for what separates it from the next one. -/
def separation : Nat := 2

/-- What stands on the lines of a value apart from the value itself. -/
structure Surroundings where
  /-- The blanks in front of each line. -/
  margin : Nat := 0
  /-- What stands in front of the value. -/
  label : String := ""
  /-- What stands behind the value. -/
  ending : String := ""
  /-- The columns that have to be free behind the value. -/
  reserve : Nat := 0

namespace Surroundings

/-- The surroundings of a part of a value, which a comma follows unless it is the last one. -/
def inside (around : Surroundings) (label : String) (isLast : Bool) : Surroundings :=
  { margin := around.margin + indentation
    label := label
    ending := if isLast then "" else ","
    reserve := separation }

/-- A line behind the margin. -/
def line (around : Surroundings) (content : String) : String :=
  String.ofList (Line.blanks around.margin) ++ content

/-- Whether a value that is written on one line fits a width. -/
def fits (around : Surroundings) (width : Nat) (content : String) : Bool :=
  around.margin + Line.room (around.label ++ content).toList + around.reserve ≤ width

/-- Lines between an opening and a closing bracket, which have lines of their own. -/
def enclose (around : Surroundings) (opening closing : String) (lines : List String) :
    List String :=
  around.line (around.label ++ opening) :: lines ++ [around.line (closing ++ around.ending)]

end Surroundings

mutual

/-- The lines of a value within a width. -/
def outlineIn (width : Nat) (around : Surroundings) (value : Value) : List String :=
  let whole := [around.line (around.label ++ showInner value ++ around.ending)]
  if around.fits width (showInner value) then whole
  else
    match value with
    | list (item :: rest) =>
        around.enclose "[" "]" (outlineItems width around (item :: rest))
    | record (entry :: rest) =>
        around.enclose "\x7b" "\x7d" (outlineEntries width around (entry :: rest))
    | _ => whole

/-- The lines of the items of a list within a width. -/
def outlineItems (width : Nat) (around : Surroundings) : List Value → List String
  | [] => []
  | item :: rest =>
      outlineIn width (around.inside "" rest.isEmpty) item ++ outlineItems width around rest

/-- The lines of the entries of a record within a width. -/
def outlineEntries (width : Nat) (around : Surroundings) : List (String × Value) → List String
  | [] => []
  | (name, value) :: rest =>
      outlineIn width (around.inside (Quoted.text name ++ ": ") rest.isEmpty) value ++
        outlineEntries width around rest

end

/-- The text of a value within a width, as far as its parts can be set apart. -/
def outline (width : Nat) (value : Value) : String :=
  "\n".intercalate (outlineIn width {} value)

end Value
end ElfInspect
