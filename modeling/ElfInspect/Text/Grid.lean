import ElfInspect.Text.Flow
import ElfInspect.Text.Narrowing

/-!
# Grids

A grid shows rows of cells in aligned columns.  Each column is as wide as its widest cell, unless
that makes lines too long, and two blanks stand between columns.  A row is as high as its highest
cell.
-/

namespace ElfInspect

/-- A column of a grid. -/
structure Column where
  /-- The first cell. -/
  title : String
  /-- How its cells are fitted to their width. -/
  fit : Fit := .along .left
  /-- What becomes of a word that is longer than a line of the column. -/
  overflow : Overflow := .fold
  deriving Repr

/-- A column aligned along its left side. -/
def Column.left (title : String) : Column := { title := title, fit := .along .left }

/-- A column aligned along its right side. -/
def Column.right (title : String) : Column := { title := title, fit := .along .right }

/-- The part of a line that belongs to a column. -/
structure Lane where
  /-- How cells are fitted to their width. -/
  fit : Fit
  /-- What becomes of a word that is longer than the lane. -/
  overflow : Overflow
  /-- The blanks in front of a cell. -/
  before : Nat
  /-- The blanks behind a cell. -/
  behind : Nat
  /-- The width of a cell with these blanks. -/
  width : Nat
  deriving Repr

namespace Lane

/-- The width left to a cell. -/
def inner (lane : Lane) : Nat := lane.width - (lane.before + lane.behind)

/-- The lines of a cell, all as wide as the lane.  There are none where no width is left. -/
def lines (lane : Lane) (cell : String) : List (List Char) :=
  if lane.inner = 0 then []
  else
    let flow : Flow := { width := lane.inner, fit := lane.fit, overflow := lane.overflow }
    (flow.lines cell).map fun line =>
      Line.blanks lane.before ++ Line.fill lane.inner line ++ Line.blanks lane.behind

/-- The width that cells need, up to that of the lane. -/
def needed (lane : Lane) (cells : List String) : Nat :=
  let needs (cell : String) : Nat :=
    if lane.inner = 0 then lane.width
    else min (Flow.room cell + lane.before + lane.behind) lane.width
  cells.foldl (fun width cell => max width (needs cell)) 0

end Lane

namespace Grid

/-- The columns of a grid, with unnamed ones added for rows that are longer. -/
def fillColumns (columns : List Column) (rows : List (List String)) : List Column :=
  let count := rows.foldl (fun count row => max count row.length) columns.length
  columns ++ List.replicate (count - columns.length) { title := "", overflow := .ellipsis }

/-- The cell of a row in a column; short rows end with empty cells. -/
def cell (row : List String) (place : Nat) : String := row.getD place ""

/-- The cells of a column. -/
def cellsOf (column : Column) (rows : List (List String)) (place : Nat) : List String :=
  column.title :: rows.map fun row => cell row place

/-- The lanes of columns, all of a given width.  A blank stands on each side of a cell, but not at
the ends of a line. -/
def lanesOf (columns : List Column) (width : Nat) : List Lane :=
  columns.mapIdx fun place column =>
    { fit := column.fit
      overflow := column.overflow
      before := if place = 0 then 0 else 1
      behind := if place + 1 = columns.length then 0 else 1
      width := width }

/-- Lanes of given widths. -/
def withWidths (lanes : List Lane) (widths : List Nat) : List Lane :=
  List.zipWith (fun lane width => { lane with width := width }) lanes widths

/-- The widths that cells need, lane by lane. -/
def neededWidths (lanes : List Lane) (cells : List (List String)) : List Nat :=
  List.zipWith Lane.needed lanes cells

/-- The width of lanes side by side. -/
def totalWidth (lanes : List Lane) : Nat := Narrowing.total (lanes.map Lane.width)

/-- The lanes of columns with given rows, on lines of a limited width.  A lane is never without
width of its own accord. -/
def frame (limit : Nat) (columns : List Column) (rows : List (List String)) : List Lane :=
  let cells := columns.mapIdx fun place column => cellsOf column rows place
  let lanes := lanesOf columns limit
  let widths := (neededWidths lanes cells).map (max 1)
  let lanes := withWidths lanes widths
  if totalWidth lanes ≤ limit then lanes
  else
    let lanes := withWidths lanes (Narrowing.narrow limit widths)
    withWidths lanes (neededWidths lanes cells)

/-- The height of the highest cell, which is one line at least. -/
def height (cells : List (List (List Char))) : Nat :=
  cells.foldl (fun height content => max height content.length) 1

/-- One line across all lanes; cells that have no such line are blank there. -/
def across (frame : List Lane) (line : List (Option (List Char))) : String :=
  let fill (lane : Lane) (content : Option (List Char)) : List Char :=
    content.getD (Line.blanks lane.width)
  String.ofList (List.zipWith fill frame line).flatten

/-- The lines of the cells of a row, lane by lane. -/
def cellLines (frame : List Lane) (row : List String) : List (List (List Char)) :=
  frame.mapIdx fun place lane => lane.lines (cell row place)

/-- The lines of a row, the cells of which begin at the same height. -/
def rowLines (frame : List Lane) (row : List String) : List String :=
  let cells := cellLines frame row
  (List.range (height cells)).map fun number => across frame (cells.map (·[number]?))

/-- The lines of the titles, which end at the same height. -/
def titleLines (frame : List Lane) (columns : List Column) : List String :=
  let cells := cellLines frame (columns.map Column.title)
  ((List.range (height cells)).map fun number =>
    across frame (cells.map (·.reverse[number]?))).reverse

/-- A remark centered above or below a grid.  An empty one takes no line. -/
def remark (frame : List Lane) (text : String) : List String :=
  let flow : Flow := { width := totalWidth frame, fit := .along .center }
  if text.isEmpty then [] else (flow.lines text).map String.ofList

/-- The lines of a grid within a width, its titles first, between a heading and a caption. -/
def lines (limit : Nat) (columns : List Column) (rows : List (List String)) (heading : String := "")
    (caption : String := "") : List String :=
  let columns := fillColumns columns rows
  if columns.isEmpty then [""]
  else
    let frame := frame limit columns rows
    remark frame heading ++ titleLines frame columns ++ rows.flatMap (rowLines frame) ++
      remark frame caption

end Grid
end ElfInspect
