import ElfInspect.Value.Display

/-!
# Message templates

A formatter fills the places of a template with arguments, unless they do not fit.  `Template.fill?`
is one for the most common places: `%s` takes any value, `%d` a number, and `%%` stands for a
percent sign.  It uses up the arguments in order, all of them except for a record that is the only
one.
-/

namespace ElfInspect

/-- A way to fill a template with arguments. -/
abbrev Formatter := String → List Value → Option String

namespace Template

/-- The text of a template with its places filled by the first of the given arguments, and the
arguments for which there is no place. -/
def fillChars : List Char → List Value → Option (List Char × List Value)
  | [], arguments => some ([], arguments)
  | '%' :: '%' :: rest, arguments => do
      let (filled, unused) ← fillChars rest arguments
      return ('%' :: filled, unused)
  | '%' :: 's' :: rest, argument :: arguments => do
      let (filled, unused) ← fillChars rest arguments
      return (argument.display.toList ++ filled, unused)
  | '%' :: 'd' :: rest, argument :: arguments => do
      let number ← argument.number?
      let (filled, unused) ← fillChars rest arguments
      return ((toString number).toList ++ filled, unused)
  | char :: rest, arguments => do
      if char = '%' then none
      let (filled, unused) ← fillChars rest arguments
      return (char :: filled, unused)

/-- Whether arguments may remain without a place: a record with entries may, if it stands alone. -/
def mayRemain : List Value → Bool
  | [.record entries] => !entries.isEmpty
  | _ => false

/-- The text of a template with its places filled by arguments. -/
def fill? : Formatter := fun template arguments => do
  let (filled, unused) ← fillChars template.toList arguments
  if unused.isEmpty || mayRemain arguments then some (String.ofList filled) else none

end Template
end ElfInspect
