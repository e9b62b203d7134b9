/-!
# Paths

A path is a text whose parts are separated by slashes.  Empty parts and single dots say nothing;
double dots are kept, because what they lead to depends on the files there are.
-/

namespace ElfInspect

/-- The parts of a path that say something. -/
structure Path where
  /-- The slashes with which an absolute path starts. -/
  root : String
  /-- The names along the path. -/
  parts : List String
  deriving DecidableEq, Repr

namespace Path

/-- The slashes that a path keeps of those with which it starts: two remain two, but more are
one. -/
def rootOf (text : String) : String :=
  match (text.toList.takeWhile (· = '/')).length with
  | 0 => ""
  | 2 => "//"
  | _ => "/"

/-- The path that a text names. -/
def ofText (text : String) : Path :=
  { root := rootOf text
    parts := (text.splitOn "/").filter fun part => part ≠ "" && part ≠ "." }

/-- Whether a text can name a file at all: no name holds the null character. -/
def isNameable (text : String) : Bool := !text.toList.contains '\x00'

/-- Whether a path starts at the root. -/
def isAbsolute (path : Path) : Bool := !path.root.isEmpty

/-- The shortest text for a path. -/
def text (path : Path) : String :=
  if path.root.isEmpty && path.parts.isEmpty then "."
  else path.root ++ "/".intercalate path.parts

/-- The path without its last part. -/
def parent (path : Path) : Path := { path with parts := path.parts.dropLast }

end Path
end ElfInspect
