import ElfInspect.Dump
import ElfInspect.Files.Volume

/-!
# Dumps of files

A file is only read if it is not larger than a limit.
-/

namespace ElfInspect

/-- A reason for which a file has no dump. -/
inductive DumpFault where
  /-- The file cannot be read. -/
  | unreadable (fault : FileFault)
  /-- The file is larger than the limit. -/
  | tooLarge (path : String) (size : Nat) (limit : Int)
  /-- The limit is no number. -/
  | limitNotNumber
  /-- The file cannot be decoded. -/
  | rejected (rejection : Rejection)

/-- The message that tells why a file has no dump. -/
def DumpFault.message : DumpFault → String
  | unreadable fault => fault.message
  | tooLarge path size limit =>
      path ++ ": " ++ Numeral.grouped size ++ " bytes exceeds the " ++ Numeral.grouped limit ++
        "-byte limit"
  | limitNotNumber => "the size limit is not a number"
  | rejected rejection => rejection.message

namespace Dump

/-- The content of a file within a limit; no limit is given if it is no number. -/
def readFile (volume : Volume) (limit : Option Int) (path : Path) : Except DumpFault Image :=
  match volume.find path with
  | .error fault => .error (.unreadable fault)
  | .ok node =>
      match limit with
      | none => .error .limitNotNumber
      | some limit =>
          if limit < node.size then .error (.tooLarge path.text node.size limit)
          else
            match node with
            | .directory => .error (.unreadable (.isDirectory path.text))
            | .file content => .ok content

/-- The dump of a file. -/
def decodeFile (volume : Volume) (limit : Option Int) (name : String) :
    Logged (Except DumpFault Dump) := do
  let path := Path.ofText name
  match readFile volume limit path with
  | .error fault => return .error fault
  | .ok image =>
      match ← decodeLogged image path.text with
      | .error rejection => return .error (.rejected rejection)
      | .ok dump => return .ok dump

end Dump
end ElfInspect
