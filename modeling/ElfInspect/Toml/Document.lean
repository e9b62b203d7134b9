import ElfInspect.Toml.Scalar

/-!
# Settings documents

A settings document is a TOML document.  It gives values to keys, line by line, in tables that
headers open.  No key may be given twice, no table may be opened twice, and a value written out in
full cannot be extended later.
-/

namespace ElfInspect
namespace Toml

/-- The entries of a table. -/
abbrev Entries := List (String × Value)

/-- A sequence of keys that leads to a value through tables. -/
abbrev KeyPath := List String

/-- Whether a character may stand in a key without quotes. -/
def isBare (char : Char) : Bool := char.isAlphanum || char = '-' || char = '_'

/-- One part of a key. -/
def keyPart : List Char → Option (String × List Char)
  | '"' :: rest =>
      (basicText false .plain rest).map fun (text, after) => (String.ofList text, after)
  | '\'' :: rest => (literalText false rest).map fun (text, after) => (String.ofList text, after)
  | chars =>
      if (chars.takeWhile isBare).isEmpty then none
      else some (String.ofList (chars.takeWhile isBare), chars.dropWhile isBare)

/-- A key of at most `fuel` parts, and what follows it and the blanks behind it. -/
def keyWithin : (fuel : Nat) → List Char → Option (KeyPath × List Char)
  | 0, _ => none
  | fuel + 1, chars => do
      let (part, rest) ← keyPart chars
      match skipBlanks rest with
      | '.' :: rest => do
          let (parts, after) ← keyWithin fuel (skipBlanks rest)
          return (part :: parts, after)
      | rest => return ([part], rest)

/-- A key. -/
def key (chars : List Char) : Option (KeyPath × List Char) := keyWithin (chars.length + 1) chars

/-- Changes the table at the end of a path, made where it is missing.  On the way a list of tables
stands for its last one, if `throughLists` allows it. -/
def within (throughLists : Bool) (change : Entries → Option Entries) :
    KeyPath → Entries → Option Entries
  | [], entries => change entries
  | key :: path, entries =>
      match Value.entry? key entries with
      | none => do
          let inner ← within throughLists change path []
          return entries ++ [(key, .record inner)]
      | some (.record inner) => do
          let inner ← within throughLists change path inner
          return entries.map fun entry => if entry.1 = key then (key, .record inner) else entry
      | some (.list items) =>
          match throughLists, items.getLast? with
          | true, some (.record inner) => do
              let inner ← within throughLists change path inner
              return entries.map fun entry =>
                if entry.1 = key then (key, .list (items.dropLast ++ [.record inner])) else entry
          | _, _ => none
      | some _ => none

/-- A table with a new entry. -/
def insertNew (key : String) (value : Value) (entries : Entries) : Option Entries :=
  match Value.entry? key entries with
  | none => some (entries ++ [(key, value)])
  | some _ => none

/-- A table with one more table at the end of a list of tables. -/
def appendTable (key : String) (entries : Entries) : Option Entries :=
  match Value.entry? key entries with
  | none => some (entries ++ [(key, .list [.record []])])
  | some (.list items) =>
      some (entries.map fun entry =>
        if entry.1 = key then (key, .list (items ++ [.record []])) else entry)
  | some _ => none

/-- Whether a path leads to or through one of the given ends. -/
def isBehind (ends : List KeyPath) (path : KeyPath) : Bool :=
  ends.any fun found => found.isPrefixOf path

/-- Whether a value is a list or a table. -/
def isCompound : Value → Bool
  | .list _ => true
  | .record _ => true
  | _ => false

/-- The document after blanks, line breaks and comments, in at most `fuel` rounds. -/
def skipSpaceWithin : (fuel : Nat) → List Char → Option (List Char)
  | 0, chars => some chars
  | fuel + 1, chars =>
      match chars.dropWhile fun char => isBlank char || char = '\n' with
      | '#' :: rest => do
          let after ← skipComment ('#' :: rest)
          skipSpaceWithin fuel after
      | rest => some rest

/-- The document after blanks, line breaks and comments. -/
def skipSpace (chars : List Char) : Option (List Char) := skipSpaceWithin (chars.length + 1) chars

/-- The document after the line break with which a text of several lines may start. -/
def skipBreak : List Char → List Char
  | '\n' :: rest => rest
  | chars => chars

/-- How deep values may nest: a list counts for two and a table written out in full for three. -/
def deepest : Nat := 980

/-- The depth that is left inside a value that takes some of it. -/
def deeper (depth taken : Nat) : Except Flaw Nat :=
  if depth < taken then .error .tooDeep else .ok (depth - taken)

mutual

/-- A value that nests at most as deep as is left, in at most `fuel` rounds. -/
def valueWithin : (fuel depth : Nat) → List Char → Except Flaw (Value × List Char)
  | 0, _, _ => .error .malformed
  | fuel + 1, depth, chars =>
      match chars with
      | '"' :: '"' :: '"' :: rest =>
          (demand (basicText true .plain (skipBreak rest))).map fun (text, after) =>
            (.text (String.ofList text), after)
      | '"' :: rest =>
          (demand (basicText false .plain rest)).map fun (text, after) =>
            (.text (String.ofList text), after)
      | '\'' :: '\'' :: '\'' :: rest =>
          (demand (literalText true (skipBreak rest))).map fun (text, after) =>
            (.text (String.ofList text), after)
      | '\'' :: rest =>
          (demand (literalText false rest)).map fun (text, after) =>
            (.text (String.ofList text), after)
      | 't' :: 'r' :: 'u' :: 'e' :: rest => .ok (.boolean true, rest)
      | 'f' :: 'a' :: 'l' :: 's' :: 'e' :: rest => .ok (.boolean false, rest)
      | '[' :: rest => do
          let (items, after) ← itemsWithin fuel (← deeper depth 2) rest
          return (.list items, after)
      | '\x7b' :: rest =>
          match skipBlanks rest with
          | '\x7d' :: after => .ok (.record [], after)
          | rest => do
              let (entries, after) ← entriesWithin fuel (← deeper depth 3) [] [] rest
              return (.record entries, after)
      | chars => scalar chars

/-- The items of a list up to its closing bracket; a comma may follow the last one. -/
def itemsWithin : (fuel depth : Nat) → List Char → Except Flaw (List Value × List Char)
  | 0, _, _ => .error .malformed
  | fuel + 1, depth, chars => do
      match ← demand (skipSpace chars) with
      | ']' :: after => return ([], after)
      | rest => do
          let (item, rest) ← valueWithin fuel depth rest
          match ← demand (skipSpace rest) with
          | ']' :: after => return ([item], after)
          | ',' :: rest => do
              let (items, after) ← itemsWithin fuel depth rest
              return (item :: items, after)
          | _ => .error .malformed

/-- The entries of a table written out in full, up to its closing brace. -/
def entriesWithin : (fuel depth : Nat) → (frozen : List KeyPath) → Entries → List Char →
    Except Flaw (Entries × List Char)
  | 0, _, _, _, _ => .error .malformed
  | fuel + 1, depth, frozen, entries, chars => do
      let (path, rest) ← demand (key chars)
      match rest with
      | '=' :: rest => do
          let (value, rest) ← valueWithin fuel depth (skipBlanks rest)
          if isBehind frozen path then throw .malformed
          let entries ← demand
            (within false (insertNew (path.getLastD "") value) path.dropLast entries)
          match skipBlanks rest with
          | '\x7d' :: after => return (entries, after)
          | ',' :: rest =>
              entriesWithin fuel depth (if isCompound value then path :: frozen else frozen)
                entries (skipBlanks rest)
          | _ => .error .malformed
      | _ => .error .malformed

end

/-- A value. -/
def value (chars : List Char) : Except Flaw (Value × List Char) :=
  valueWithin (2 * chars.length + 2) deepest chars

/-- A document as far as it is read. -/
structure Draft where
  /-- The values so far. -/
  entries : Entries := []
  /-- The table that the last header opened. -/
  current : KeyPath := []
  /-- The tables that no header may open again. -/
  opened : List KeyPath := []
  /-- The tables made by dotted keys since the last header. -/
  dotted : List KeyPath := []
  /-- The values that cannot be extended. -/
  frozen : List KeyPath := []

namespace Draft

/-- The document after the header of a table. -/
def openTable (draft : Draft) (path : KeyPath) : Option Draft :=
  let opened := draft.dotted ++ draft.opened
  if opened.contains path || isBehind draft.frozen path then none
  else do
    let entries ← within true some path draft.entries
    return { draft with
      entries := entries
      current := path
      opened := path :: opened
      dotted := [] }

/-- The document after the header of one more table of a list. -/
def openListed (draft : Draft) (path : KeyPath) : Option Draft :=
  if isBehind draft.frozen path then none
  else do
    let isOutside (known : KeyPath) : Bool := !path.isPrefixOf known
    let entries ← within true (appendTable (path.getLastD "")) path.dropLast draft.entries
    return { draft with
      entries := entries
      current := path
      opened := path :: (draft.dotted ++ draft.opened).filter isOutside
      dotted := []
      frozen := draft.frozen.filter isOutside }

/-- The tables through which a dotted key leads. -/
def tablesOf (current key : KeyPath) : List KeyPath :=
  (List.range (key.length - 1)).map fun index => current ++ key.take (index + 1)

/-- The document after a key with its value. -/
def assign (draft : Draft) (key : KeyPath) (value : Value) : Option Draft :=
  let tables := tablesOf draft.current key
  let path := draft.current ++ key
  if tables.any draft.opened.contains || isBehind draft.frozen path.dropLast then none
  else do
    let entries ←
      within true (insertNew (path.getLastD "") value) path.dropLast draft.entries
    return { draft with
      entries := entries
      dotted := tables ++ draft.dotted
      frozen := if isCompound value then path :: draft.frozen else draft.frozen }

end Draft

/-- A key with its value. -/
def assignment (draft : Draft) (chars : List Char) : Except Flaw (Draft × List Char) := do
  let (path, rest) ← demand (key chars)
  match rest with
  | '=' :: rest => do
      let (value, after) ← value (skipBlanks rest)
      let draft ← demand (draft.assign path value)
      return (draft, after)
  | _ => .error .malformed

/-- The header of a table or of one more table of a list, behind its first bracket. -/
def header (draft : Draft) (chars : List Char) : Option (Draft × List Char) :=
  match chars with
  | '[' :: rest => do
      let (path, rest) ← key (skipBlanks rest)
      match rest with
      | ']' :: ']' :: after => do
          let draft ← draft.openListed path
          return (draft, after)
      | _ => none
  | rest => do
      let (path, rest) ← key (skipBlanks rest)
      match rest with
      | ']' :: after => do
          let draft ← draft.openTable path
          return (draft, after)
      | _ => none

/-- A header, a key with its value, or nothing. -/
def statement (draft : Draft) (chars : List Char) : Except Flaw (Draft × List Char) :=
  match chars with
  | [] => .ok (draft, [])
  | '\n' :: _ => .ok (draft, chars)
  | '#' :: _ => .ok (draft, chars)
  | '[' :: rest => demand (header draft rest)
  | chars => assignment draft chars

/-- The document after at most `fuel` more lines. -/
def linesWithin : (fuel : Nat) → Draft → List Char → Except Flaw Draft
  | 0, _, _ => .error .malformed
  | fuel + 1, draft, chars => do
      let (draft, rest) ← statement draft (skipBlanks chars)
      match ← demand (skipComment (skipBlanks rest)) with
      | [] => return draft
      | '\n' :: rest => linesWithin fuel draft rest
      | _ => .error .malformed

/-- A text whose lines end in a line feed alone. -/
def plainBreaks : List Char → List Char
  | '\r' :: '\n' :: rest => '\n' :: plainBreaks rest
  | char :: rest => char :: plainBreaks rest
  | [] => []

/-- The entries of a document. -/
def parse (document : String) : Except Flaw Entries :=
  let chars := plainBreaks document.toList
  (linesWithin (chars.length + 1) {} chars).map Draft.entries

end Toml
end ElfInspect
