import ElfInspect.Text.Grid
import ElfInspect.Text.Markup

/-!
# Console lines

The forms in which everything is told to a reader: headings, messages of each kind, labelled
values and grids.  Their texts hold marks for the styles in which they are shown, and a text whose
marks do not fit together cannot be shown.
-/

namespace ElfInspect

/-- What shows texts. -/
structure Screen where
  /-- The columns of a line. -/
  width : Nat
  /-- The plain text of a text with marks, if they fit together. -/
  render : String → Option String

/-- A reason for which writing stops. -/
inductive PageFault where
  /-- The width of names is not a number. -/
  | nameWidth
  /-- The marks of a text do not fit together. -/
  | marks
  deriving DecidableEq, Repr

/-- Lines that were written, up to the end or to a point at which writing had to stop. -/
structure Page where
  /-- The lines. -/
  lines : List String := []
  /-- Why writing stopped, if it did. -/
  fault : Option PageFault := none
  deriving DecidableEq, Repr

namespace Page

/-- A page of lines, written to the end. -/
def ofLines (lines : List String) : Page := { lines := lines }

/-- A page on which nothing can be written. -/
def stop (fault : PageFault) : Page := { fault := some fault }

/-- A page followed by another one; nothing follows a page on which writing stopped. -/
def append (first second : Page) : Page :=
  if first.fault.isSome then first
  else { lines := first.lines ++ second.lines, fault := second.fault }

instance : Append Page := ⟨append⟩

/-- Pages one after the other. -/
def concat : List Page → Page
  | [] => {}
  | page :: rest => page ++ concat rest

end Page

namespace Console

/-- A text, broken where it breaks itself or gets too wide. -/
def print (screen : Screen) (content : String) : Page :=
  match screen.render content with
  | none => .stop .marks
  | some plain => .ofLines ((({ width := screen.width } : Flow).lines plain).map String.ofList)

/-- A heading, with an addition on the same line. -/
def heading (screen : Screen) (title : String) (addition : String := "") : Page :=
  let title := Markup.mark "dump.section" title
  print screen
    (if addition.isEmpty then title else title ++ " " ++ Markup.mark "dump.info" addition)

/-- A message of success. -/
def success (screen : Screen) (message : String) : Page :=
  print screen (Markup.mark "dump.success" "OK:" ++ " " ++ message)

/-- A warning. -/
def warning (screen : Screen) (message : String) : Page :=
  print screen (Markup.mark "dump.warning" "warning:" ++ " " ++ message)

/-- A message of failure. -/
def error (screen : Screen) (message : String) : Page :=
  print screen (Markup.mark "dump.error" "error:" ++ " " ++ message)

/-- A plain message. -/
def info (screen : Screen) (message : String) : Page :=
  print screen (Markup.mark "dump.info" message)

/-- Empty lines. -/
def blank (count : Int := 1) : Page := .ofLines (List.replicate count.toNat "")

/-- Pages in order with an empty line between them. -/
def separate : List Page → Page
  | [] => {}
  | [page] => page
  | page :: rest => page ++ blank ++ separate rest

/-- The width of labels together with the blanks behind them. -/
def labelWidth : Int := 36

/-- A label with a value behind a gap of at least one blank. -/
def labelled (screen : Screen) (label value : String) (gap : Int) : Page :=
  print screen
    ("  " ++ Markup.mark "dump.label" label ++ ":" ++
      String.ofList (Line.blanks (max gap 1).toNat) ++ value)

/-- Labels with values that start in one column, or one blank behind a label that is too long. -/
def keyValues (screen : Screen) (pairs : List (String × String)) : Page :=
  .concat (pairs.map fun (label, value) => labelled screen label value (labelWidth - label.length))

/-- A grid between a heading and a caption. -/
def grid (screen : Screen) (columns : List Column) (rows : List (List String))
    (heading : String := "") (caption : String := "") : Page :=
  let shown : Option (List String) := do
    let columns ← columns.mapM fun column =>
      (screen.render column.title).map fun title => { column with title := title }
    let rows ← rows.mapM fun row => row.mapM screen.render
    let heading ← screen.render heading
    let caption ← screen.render caption
    return Grid.lines screen.width columns rows heading caption
  match shown with
  | none => .stop .marks
  | some lines => .ofLines lines

/-- The lines of a text, the last of which may lack its end. -/
def linesOf (content : String) : List String :=
  let lines := content.splitOn "\n"
  if lines.getLast? = some "" then lines.dropLast else lines

end Console
end ElfInspect
