/-!
# Markup

A text may hold marks, which are names of styles between brackets.  A mark opens a style, and one
with a slash in front closes it.  Backslashes in front of a mark turn it into plain text.
-/

namespace ElfInspect
namespace Markup

/-- Whether a character may be the first one of a mark. -/
def startsMark (char : Char) : Bool := char.isLower || ['#', '/', '@'].contains char

/-- The text of the mark behind an opening bracket.  It goes up to the next closing bracket and
holds no opening one. -/
def markText? : List Char → Option (List Char)
  | [] => none
  | first :: rest =>
      let inner := rest.takeWhile fun char => char ≠ '[' && char ≠ ']'
      if startsMark first && (rest.drop inner.length).head? = some ']' then some (first :: inner)
      else none

/-- The text of the mark at the start of a text, and how many backslashes stand in front of it. -/
def leadingMark? (chars : List Char) : Option (Nat × List Char) :=
  let slashes := (chars.takeWhile (· = '\\')).length
  match chars.drop slashes with
  | '[' :: rest => (markText? rest).map fun text => (slashes, text)
  | _ => none

/-! ## Escaping -/

/-- A text in which backslashes keep each mark from being one.  So many characters at its start are
only copied. -/
def escapeChars : (copied : Nat) → List Char → List Char
  | _, [] => []
  | copied + 1, char :: rest => char :: escapeChars copied rest
  | 0, char :: rest =>
      match leadingMark? (char :: rest) with
      | some (slashes, text) =>
          List.replicate (slashes + 1) '\\' ++
            char :: escapeChars (slashes + text.length + 1) rest
      | none => char :: escapeChars 0 rest

/-- Whether a text ends in a single backslash. -/
def endsInSlash (chars : List Char) : Bool :=
  match chars.reverse with
  | '\\' :: '\\' :: _ => false
  | '\\' :: _ => true
  | _ => false

/-- A text for use inside another one, in which its marks are none. -/
def escape (content : String) : String :=
  let escaped := escapeChars 0 content.toList
  String.ofList (if endsInSlash escaped then escaped ++ ['\\'] else escaped)

/-- A text in a style. -/
def mark (style content : String) : String := "[" ++ style ++ "]" ++ content ++ "[/" ++ style ++ "]"

/-! ## Rendering -/

/-- A part of a text with marks. -/
inductive Token where
  /-- A character to be shown. -/
  | plain (char : Char)
  /-- A mark. -/
  | mark (text : List Char)

/-- The parts of a text behind so many characters. -/
def tokensBehind : (skipped : Nat) → List Char → List Token
  | _, [] => []
  | skipped + 1, _ :: rest => tokensBehind skipped rest
  | 0, char :: rest =>
      match leadingMark? (char :: rest) with
      | some (slashes, text) =>
          List.replicate (slashes / 2) (.plain '\\') ++
            (if slashes % 2 = 0 then [.mark text] else ('[' :: text ++ [']']).map .plain) ++
            tokensBehind (slashes + text.length + 1) rest
      | none =>
          -- Where there is no mark, a backslash still stands for nothing in front of a bracket.
          if char = '\\' && rest.head? = some '[' then .plain '[' :: tokensBehind 1 rest
          else .plain char :: tokensBehind 0 rest

/-- The name of a style without the white space around it, in small letters. -/
def styleName (chars : List Char) : List Char :=
  let rest := chars.dropWhile Char.isWhitespace
  (rest.reverse.dropWhile Char.isWhitespace).reverse.map Char.toLower

/-- The open styles after a mark, the innermost first.  A mark that closes a style which is not open
has no place. -/
def afterMark (opened : List (List Char)) (text : List Char) : Option (List (List Char)) :=
  match text.takeWhile (· ≠ '=') with
  | '/' :: closing =>
      let style := styleName closing
      if style.isEmpty then opened.tail?
      else if opened.contains style then some (opened.erase style)
      else none
  | style => some (styleName style :: opened)

/-- The characters to be shown, if all marks have a place. -/
def shown : (opened : List (List Char)) → List Token → Option (List Char)
  | _, [] => some []
  | opened, .plain char :: rest => (shown opened rest).map (char :: ·)
  | opened, .mark text :: rest => do
      let opened ← afterMark opened text
      shown opened rest

/-- The plain text of a text with marks, if all marks have a place. -/
def render (content : String) : Option String :=
  (shown [] (tokensBehind 0 content.toList)).map String.ofList

end Markup
end ElfInspect
