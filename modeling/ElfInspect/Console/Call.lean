import ElfInspect.Console.Printing

/-!
# Console calls

The forms of the console can be asked for by name, with arguments by place and by name.  A sequence
of calls writes one text: what ends without a line break goes on with the next call.
-/

namespace ElfInspect

/-- A reason for which a call writes nothing. -/
inductive CallFault where
  /-- There is no form of this name. -/
  | unknownForm (form : String)
  /-- The arguments are too many, too few, or of a kind of which the form has no use. -/
  | misfit (form : String)
  /-- A label does not come with exactly one value. -/
  | notPair
  /-- How columns are fitted is given by name. -/
  | namedFits
  /-- A title of a grid or its columns is not a text. -/
  | titleNotText
  /-- What is to stand between values is not a text. -/
  | separatorNotText
  /-- The marks of a text do not fit together. -/
  | marks
  deriving DecidableEq, Repr

/-- The message that tells why a call writes nothing. -/
def CallFault.message : CallFault → String
  | unknownForm form => "there is no form " ++ form
  | misfit form => "the arguments do not fit " ++ form
  | notPair => "a label has other than one value"
  | namedFits => "what is said of columns is not in order"
  | titleNotText => "a title is not a text"
  | separatorNotText => "the separator is not a text"
  | marks => "the marks of a text do not fit together"

/-- What a form can be given. -/
structure Parameters where
  /-- What has to be given, by place or by name. -/
  required : List String := []
  /-- What may be given behind that, by place or by name. -/
  optional : List String := []
  /-- What may be given by name only. -/
  nameOnly : List String := []

/-- A call of a form. -/
structure ConsoleCall where
  /-- The name of the form. -/
  form : String
  /-- The arguments by place. -/
  placed : List Value := []
  /-- The arguments by name. -/
  named : List (String × Value) := []

namespace ConsoleCall

/-- The arguments of a call, each with the name of its parameter: none is given twice, none has no
parameter and none that is required is missing. -/
def bind (call : ConsoleCall) (parameters : Parameters) :
    Except CallFault (List (String × Value)) :=
  let byPlace := parameters.required ++ parameters.optional
  let free := byPlace.drop call.placed.length ++ parameters.nameOnly
  let bound := byPlace.zip call.placed ++ call.named
  if call.placed.length ≤ byPlace.length
      && call.named.all (fun pair => free.contains pair.1)
      && parameters.required.all (fun name => (Value.entry? name bound).isSome) then
    .ok bound
  else .error (.misfit call.form)

/-- A result, if the arguments have it. -/
def demand {α : Type} (call : ConsoleCall) (result : Option α) : Except CallFault α :=
  match result with
  | some found => .ok found
  | none => .error (.misfit call.form)

/-- An argument among those of a call. -/
def argument (bound : List (String × Value)) (name : String) : Value :=
  (Value.entry? name bound).getD .null

/-! ## Headings, messages and empty lines -/

/-- A heading; an addition that says nothing is left out. -/
def heading (screen : Screen) (call : ConsoleCall) : Except CallFault Page := do
  let bound ← call.bind { required := ["title"], optional := ["subtitle"] }
  let addition := argument bound "subtitle"
  return Console.heading screen (argument bound "title").display
    (if addition.isTruthy then addition.display else "")

/-- A message in a given form. -/
def message (call : ConsoleCall) (write : String → Page) : Except CallFault Page := do
  let bound ← call.bind { required := ["message"] }
  return write (argument bound "message").display

/-- Empty lines. -/
def blank (call : ConsoleCall) : Except CallFault Page := do
  let bound ← call.bind { optional := ["count"] }
  let count ← call.demand ((Value.entry? "count" bound).getD (.integer 1)).number?
  return Console.blank count

/-! ## Labelled values -/

/-- The room that a label takes: the characters of a text, or the parts of another value. -/
def labelSize? (label : Value) : Option Nat := label.items?.map List.length

/-- A label with its value. -/
def labelled (screen : Screen) (call : ConsoleCall) (pad pair : Value) :
    Except CallFault Page := do
  match ← call.demand pair.items? with
  | [label, value] =>
      let size ← call.demand (labelSize? label)
      let width ← call.demand pad.number?
      return Console.labelled screen label.display value.display (width - size)
  | _ => throw .notPair

/-- Labels with their values. -/
def keyValues (screen : Screen) (call : ConsoleCall) : Except CallFault Page := do
  let bound ← call.bind { required := ["pairs"], optional := ["pad"] }
  let pad := (Value.entry? "pad" bound).getD (.integer Console.labelWidth)
  let pairs ← call.demand (argument bound "pairs").items?
  return .concat (← pairs.mapM (call.labelled screen pad))

/-! ## Grids -/

/-- How lines are fitted to their width, as a value names it. -/
def fitOf : Value → Fit
  | .text "left" => .along .left
  | .text "right" => .along .right
  | .text "center" => .along .center
  | .text "full" => .full
  | _ => .free

/-- How the cells of columns are fitted; along the left side where nothing is given. -/
def fits (call : ConsoleCall) (count : Nat) (given : Value) : Except CallFault (List Fit) :=
  if count = 0 || !given.isTruthy then .ok []
  else
    match given with
    | .record _ => .error .namedFits
    | given => (call.demand given.items?).map (·.map fitOf)

/-- The text of a heading or caption, which may say nothing. -/
def remark : Value → Except CallFault String
  | .text content => .ok content
  | value => if value.isTruthy then .error .titleNotText else .ok ""

/-- A column with a title. -/
def column (title : Value) (fit : Fit) : Except CallFault Column :=
  match title with
  | .text title => .ok { title := title, fit := fit }
  | _ => .error .titleNotText

/-- The cells of a row. -/
def cells (call : ConsoleCall) (row : Value) : Except CallFault (List String) :=
  (call.demand row.items?).map (·.map Value.display)

/-- A grid. -/
def grid (screen : Screen) (call : ConsoleCall) : Except CallFault Page := do
  let bound ← call.bind
    { required := ["title", "columns", "rows"], nameOnly := ["caption", "justify"] }
  let titles ← call.demand (argument bound "columns").items?
  let fits ← call.fits titles.length (argument bound "justify")
  let rows ← (← call.demand (argument bound "rows").items?).mapM call.cells
  if titles.isEmpty && rows.all List.isEmpty then return Console.blank
  let columns ← (titles.mapIdx fun place title => (title, fits.getD place (.along .left))).mapM
    fun (title, fit) => column title fit
  return Console.grid screen columns rows (← remark (argument bound "title"))
    (← remark (argument bound "caption"))

/-! ## Values -/

/-- The arguments that values can be printed with. -/
def printNames : List String :=
  ["sep", "end", "style", "justify", "overflow", "no_wrap", "emoji", "markup", "highlight",
    "width", "height", "crop", "soft_wrap", "new_line_start"]

/-- The text between values. -/
def separatorOf : Option Value → Except CallFault String
  | none => .ok " "
  | some (.text content) => .ok content
  | some _ => .error .separatorNotText

/-- The text behind values. -/
def endingOf (call : ConsoleCall) : Option Value → Except CallFault String
  | none => .ok "\n"
  | some (.text content) => .ok content
  | some value => if value.isTruthy then .error (.misfit call.form) else .ok ""

/-- Whether texts may hold marks. -/
def isMarked : Value → Bool
  | .null => true
  | value => value.isTruthy

/-- A value with the plain text in place of a text with marks. -/
def plain (screen : Screen) : Value → Except CallFault Value
  | .text content =>
      match screen.render content with
      | none => .error .marks
      | some content => .ok (.text content)
  | value => .ok value

/-- The passages that a call prints.  Without values that is an empty line; another ending than a
line break follows an empty text instead. -/
def passages (screen : Screen) (call : ConsoleCall) (bound : List (String × Value)) :
    Except CallFault (List Passage) := do
  let endsLine :=
    match Value.entry? "end" bound with
    | none => true
    | some (.text content) => content = "\n"
    | some _ => false
  if call.placed.isEmpty && endsLine then return [.blank]
  let values := if call.placed.isEmpty then [Value.text ""] else call.placed
  let values ← if isMarked (argument bound "markup") then values.mapM (plain screen) else .ok values
  if (Passage.ofValues "" values).any Passage.isRow then
    return Passage.ofValues (← separatorOf (Value.entry? "sep" bound)) values
  return Passage.ofValues "" values

/-- The width of a line. -/
def widthOf (screen : Screen) (call : ConsoleCall) : Value → Except CallFault Nat
  | .null => .ok screen.width
  | value => (call.demand value.number?).map fun width => min width.toNat screen.width

/-- Refuses a height that is no number.  A height that is one changes nothing. -/
def checkHeight (call : ConsoleCall) (height : Value) : Except CallFault Unit :=
  match height with
  | .null => .ok ()
  | height => (call.demand height.number?).map fun _ => ()

/-- What becomes of a word that is too long. -/
def overflowOf : Value → Overflow
  | .text "fold" => .fold
  | .text "ellipsis" => .ellipsis
  | .text "ignore" => .ignore
  | value => if value.isTruthy then .crop else .fold

/-- How texts flow.  Soft lines are left alone and not cut, unless something else is asked for. -/
def flowOf (bound : List (String × Value)) (width : Nat) (isSoft : Bool) : Flow :=
  let orSoft (value soft : Value) : Value :=
    match value with
    | .null => if isSoft then soft else .null
    | value => value
  { width := width
    fit := fitOf (argument bound "justify")
    overflow := overflowOf (orSoft (argument bound "overflow") (.text "ignore"))
    isWrapped := !(orSoft (argument bound "no_wrap") (.boolean true)).isTruthy }

/-- The text of printed values. -/
def printed (screen : Screen) (call : ConsoleCall) : Except CallFault String := do
  let bound ← ({ call with placed := [] } : ConsoleCall).bind { nameOnly := printNames }
  let passages ← call.passages screen bound
  let width ← call.widthOf screen (argument bound "width")
  call.checkHeight (argument bound "height")
  let isSoft := (argument bound "soft_wrap").isTruthy
  let printing : Printing :=
    { flow := flowOf bound width isSoft
      width := screen.width
      startsLine := (argument bound "new_line_start").isTruthy
      isCropped := !isSoft && ((Value.entry? "crop" bound).getD (.boolean true)).isTruthy }
  let hasEnding := passages.any fun passage => passage.isRow && printing.shows passage
  let ending ← if hasEnding then call.endingOf (Value.entry? "end" bound) else .ok ""
  return { printing with ending := ending }.text passages

/-! ## Transcripts -/

/-- The text of a page that is written to its end. -/
def pageText (page : Page) : Except CallFault String :=
  match page.fault with
  | none => .ok (String.join (page.lines.map (· ++ "\n")))
  | some _ => .error .marks

/-- The text that a call writes. -/
def text (screen : Screen) (call : ConsoleCall) : Except CallFault String :=
  match call.form with
  | "section" => call.heading screen >>= pageText
  | "success" => call.message (Console.success screen) >>= pageText
  | "warning" => call.message (Console.warning screen) >>= pageText
  | "error" => call.message (Console.error screen) >>= pageText
  | "info" => call.message (Console.info screen) >>= pageText
  | "table" => call.grid screen >>= pageText
  | "key_values" => call.keyValues screen >>= pageText
  | "blank" => call.blank >>= pageText
  | "print" => call.printed screen
  | form => .error (.unknownForm form)

/-- The lines that calls write one after the other. -/
def transcript (screen : Screen) (calls : List ConsoleCall) : Except CallFault (List String) := do
  let texts ← calls.mapM (text screen)
  return Console.linesOf (String.join texts)

end ConsoleCall
end ElfInspect
