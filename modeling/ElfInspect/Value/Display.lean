import ElfInspect.Text.Quoted
import ElfInspect.Value.Basic

/-!
# Values in messages

A text appears in a message as it is, but between quotes inside a list or a record.
-/

namespace ElfInspect
namespace Value

mutual

/-- A value inside another one. -/
def showInner : Value → String
  | null => "None"
  | boolean true => "True"
  | boolean false => "False"
  | integer value => toString value
  | fraction numeral => numeral
  | moment content => content
  | text value => Quoted.text value
  | list [] => "[]"
  | list (item :: rest) => "[" ++ showInner item ++ showItems rest ++ "]"
  | record [] => "\x7b\x7d"
  | record ((name, value) :: rest) =>
      "\x7b" ++ Quoted.text name ++ ": " ++ showInner value ++ showEntries rest ++ "\x7d"

/-- The items after the first one. -/
def showItems : List Value → String
  | [] => ""
  | item :: rest => ", " ++ showInner item ++ showItems rest

/-- The entries after the first one. -/
def showEntries : List (String × Value) → String
  | [] => ""
  | (name, value) :: rest =>
      ", " ++ Quoted.text name ++ ": " ++ showInner value ++ showEntries rest

end

/-- A value as it appears in a message. -/
def display : Value → String
  | text value => value
  | value => showInner value

end Value
end ElfInspect
