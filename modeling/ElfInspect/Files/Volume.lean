import ElfInspect.Bytes.Image
import ElfInspect.Files.Path
import ElfInspect.Text.Quoted

/-!
# Volumes

A volume is a tree of directories and files, with a working directory from which relative paths
start.  A place is the list of names that lead to it from the root.
-/

namespace ElfInspect

/-- A reason for which a path cannot be used. -/
inductive FileFault where
  /-- There is nothing at the path. -/
  | missing (path : String)
  /-- There is a file where the path needs a directory. -/
  | notDirectory (path : String)
  /-- There is a directory where a file is needed. -/
  | isDirectory (path : String)
  /-- There is a file where a directory is to be made. -/
  | alreadyExists (path : String)
  /-- The path, or a name on its way, has more bytes than it may have. -/
  | tooLong (path : String)
  /-- No file can have such a name. -/
  | unnameable (path : String)
  /-- Too many directories are missing, one inside the other. -/
  | tooDeep (path : String)
  deriving DecidableEq, Repr

/-- The message that tells why a path cannot be used. -/
def FileFault.message : FileFault → String
  | missing path => "[Errno 2] No such file or directory: " ++ Quoted.text path
  | notDirectory path => "[Errno 20] Not a directory: " ++ Quoted.text path
  | isDirectory path => "[Errno 21] Is a directory: " ++ Quoted.text path
  | alreadyExists path => "[Errno 17] File exists: " ++ Quoted.text path
  | tooLong path => "[Errno 36] File name too long: " ++ Quoted.text path
  | unnameable path => Quoted.text path ++ " cannot be the name of a file"
  | tooDeep path => "too many directories are missing on the way to " ++ Quoted.text path

/-- The names that lead from the root to a file or directory. -/
abbrev Place := List String

/-- What is found at a place. -/
inductive Node where
  /-- A directory. -/
  | directory
  /-- A file with its content. -/
  | file (content : Image)

/-- The size that a directory has as a file. -/
def Node.directorySize : Nat := 4096

/-- The size of a file or directory. -/
def Node.size : Node → Nat
  | .directory => directorySize
  | .file content => content.size

/-- A tree of directories and files. -/
structure Volume where
  /-- The place from which relative paths start. -/
  workingDirectory : Place
  /-- The directories apart from the root. -/
  directories : List Place := []
  /-- The files with their contents. -/
  files : List (Place × Image) := []

namespace Volume

/-- The places of the directories on the way to a place. -/
def ancestors (place : Place) : List Place :=
  (List.range place.length).map fun length => place.take length

/-- What is found at a place. -/
def node? (volume : Volume) (place : Place) : Option Node :=
  match volume.files.lookup place with
  | some content => some (.file content)
  | none =>
      if place.isEmpty || volume.directories.contains place then some .directory else none

/-- The volume with a directory in one that is there. -/
def putDirectory (volume : Volume) (place : Place) : Volume :=
  { volume with directories := place :: volume.directories }

/-- The volume with a file in a directory that is there, in place of any file that was there. -/
def putFile (volume : Volume) (place : Place) (content : Image) : Volume :=
  { volume with files := (place, content) :: volume.files.filter fun entry => entry.1 ≠ place }

/-- The volume without the file at a place. -/
def removeFile (volume : Volume) (place : Place) : Volume :=
  { volume with files := volume.files.filter fun entry => entry.1 ≠ place }

/-- The volume with the file at a place, if there is one, moved to another place. -/
def moveFile (volume : Volume) (source target : Place) : Volume :=
  match volume.files.lookup source with
  | none => volume
  | some content => (volume.removeFile source).putFile target content

/-- The volume with a directory, and all directories on the way to it. -/
def addDirectory (volume : Volume) (place : Place) : Volume :=
  { volume with
    directories := volume.directories ++
      (place :: ancestors place).filter fun found => !volume.directories.contains found }

/-- The volume with a file, and all directories on the way to it. -/
def addFile (volume : Volume) (place : Place) (content : Image) : Volume :=
  (volume.addDirectory place.dropLast).putFile place content

/-- The volume with an empty tree around its working directory. -/
def atDirectory (workingDirectory : Place) : Volume :=
  ({ workingDirectory := workingDirectory } : Volume).addDirectory workingDirectory

/-- The most bytes that a name can have. -/
def longestName : Nat := 255

/-- The most bytes that the text of a path can have. -/
def longestPath : Nat := 4095

/-- Whether a name on a path has more bytes than it can have. -/
def isOverlong (name : String) : Bool := longestName < name.utf8ByteSize

/-- Refuses a text that is no path, whatever the files there are. -/
def checkText (text : String) : Except FileFault Unit :=
  if !Path.isNameable text then .error (.unnameable text)
  else if longestPath < text.utf8ByteSize then .error (.tooLong text)
  else .ok ()

/-- The place from which a path starts. -/
def startOf (volume : Volume) (path : Path) : Place :=
  if path.isAbsolute then [] else volume.workingDirectory

/-- The place to which parts of a path lead from a place, if all but the last one lead to
directories. -/
def walk (volume : Volume) (name : String) : Place → List String → Except FileFault Place
  | place, [] => .ok place
  | place, part :: rest =>
      match volume.node? place with
      | none => .error (.missing name)
      | some (.file _) => .error (.notDirectory name)
      | some .directory =>
          if isOverlong part then .error (.tooLong name)
          else walk volume name (if part = ".." then place.dropLast else place ++ [part]) rest

/-- What is found at a path. -/
def find (volume : Volume) (path : Path) : Except FileFault Node := do
  checkText path.text
  let place ← volume.walk path.text (volume.startOf path) path.parts
  match volume.node? place with
  | none => .error (.missing path.text)
  | some node => .ok node

/-- The content of the file at a path. -/
def read (volume : Volume) (path : Path) : Except FileFault Image := do
  match ← volume.find path with
  | .directory => .error (.isDirectory path.text)
  | .file content => .ok content

/-- Whether a text, taken as a path, leads to a directory. -/
def isDirectory (volume : Volume) (text : String) : Bool :=
  !text.isEmpty &&
    match checkText text, volume.find (Path.ofText text) with
    | .ok _, .ok .directory => true
    | _, _ => false

/-- The most missing directories, one inside the other, that can be made at once. -/
def deepestWay : Nat := 980

/-- Makes the directories along parts of a path that are missing.  A file that stands in the way is
told as such where a directory was to be made: at the end, or anywhere behind a directory that was
missing. -/
def makeAlong (name : String) :
    (wasMissing : Bool) → Volume → Place → List String → Except FileFault (Volume × Place)
  | _, volume, place, [] => .ok (volume, place)
  | wasMissing, volume, place, part :: rest =>
      let next := if part = ".." then place.dropLast else place ++ [part]
      if isOverlong part then .error (.tooLong name)
      else
        match volume.node? next with
        | none =>
            if !wasMissing && deepestWay ≤ rest.length then .error (.tooDeep name)
            else makeAlong name true (volume.putDirectory next) next rest
        | some .directory => makeAlong name wasMissing volume next rest
        | some (.file _) =>
            .error (if rest.isEmpty || wasMissing then .alreadyExists name else .notDirectory name)

/-- The volume with the directories on the way to a path, and the place they lead to. -/
def makeWay (volume : Volume) (path : Path) : Except FileFault (Volume × Place) := do
  checkText path.parent.text
  makeAlong path.parent.text false volume (volume.startOf path) path.parent.parts

/-- The place in a directory at which the file of a path may be written. -/
def filePlace (volume : Volume) (path : Path) (directory : Place) : Except FileFault Place :=
  match path.parts.getLast? with
  | none => .error (.isDirectory path.text)
  | some ".." => .error (.isDirectory path.text)
  | some name =>
      if isOverlong name then .error (.tooLong path.text)
      else
        match volume.node? (directory ++ [name]) with
        | some .directory => .error (.isDirectory path.text)
        | _ => .ok (directory ++ [name])

/-- The volume after writing a file, with the directories on the way to it, and the place of the
file. -/
def write (volume : Volume) (path : Path) (content : Image) :
    Except FileFault (Volume × Place) := do
  let (volume, directory) ← volume.makeWay path
  checkText path.text
  let place ← volume.filePlace path directory
  return (volume.putFile place content, place)

/-- The absolute path of a place. -/
def absolute (place : Place) : String := "/" ++ "/".intercalate place

end Volume
end ElfInspect
