import ElfInspect.Files.Volume
import ElfInspect.Log.Basic

/-!
# Log files

A log file keeps what it held when it was opened, and the entries of the log follow one by one.  A
file that gets too large becomes the first of a few backups, and a new one is begun.
-/

namespace ElfInspect

/-- An open log file. -/
structure LogFile where
  /-- The place of the file. -/
  place : Place
  /-- Whether the entries are written as JSON. -/
  isJson : Bool

namespace LogFile

/-- The size that a log file has to stay below. -/
def sizeLimit : Nat := 10485760

/-- The number of backups. -/
def backupCount : Nat := 5

/-- The place of a backup by its number; the file itself counts as the backup zero. -/
def slot (file : LogFile) : Nat → Place
  | 0 => file.place
  | number => file.place.dropLast ++ [file.place.getLastD "" ++ "." ++ toString number]

/-- The places of the file and its backups. -/
def slots (file : LogFile) : List Place := (List.range (backupCount + 1)).map file.slot

/-- Opens a file for a log, made empty if it is missing, with the directories on the way to it.  The
file is opened by the absolute path of its place, which counts for the length of the path. -/
def openAt (volume : Volume) (path : Path) (isJson : Bool) :
    Except FileFault (Volume × LogFile) := do
  let (volume, directory) ← volume.makeWay path
  let place ← volume.filePlace path directory
  Volume.checkText (Volume.absolute place)
  let content := (volume.files.lookup place).getD (Image.ofList [])
  return (volume.putFile place content, { place := place, isJson := isJson })

/-- What the file holds. -/
def content (file : LogFile) (volume : Volume) : Image :=
  (volume.files.lookup file.place).getD (Image.ofList [])

/-- The volume with each backup moved on by one place, and an empty file behind them. -/
def rotate (file : LogFile) (volume : Volume) : Volume :=
  let move (volume : Volume) (number : Nat) : Volume :=
    volume.moveFile (file.slot number) (file.slot (number + 1))
  ((List.range backupCount).reverse.foldl move volume).putFile file.place (Image.ofList [])

/-- Whether a file has no room for the text of one more entry. -/
def isFull (file : LogFile) (volume : Volume) (text : String) : Bool :=
  sizeLimit ≤ (file.content volume).size + text.length + 1

/-- The volume with the text of one more entry at the end of the file. -/
def append (file : LogFile) (volume : Volume) (text : String) : Volume :=
  let volume := if file.isFull volume text then file.rotate volume else volume
  volume.putFile file.place ⟨(file.content volume).bytes ++ (text ++ "\n").toUTF8⟩

/-- The volume with the texts of entries at the end of the file. -/
def write (file : LogFile) (volume : Volume) (texts : List String) : Volume :=
  texts.foldl file.append volume

end LogFile
end ElfInspect
