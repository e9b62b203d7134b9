import ElfInspect.Command.Run
import Std.Time.Format

/-!
# The program

The program gathers into a volume what a command line can refer to, runs the command over it, and
stores and prints what the run leaves behind.
-/

namespace ElfInspect
namespace Program

/-- The time of day in universal time, with its offset. -/
def now : IO String := do
  let time := Std.Time.DateTime.ofTimestamp (← Std.Time.Timestamp.now) .UTC
  return time.format "uuuu-MM-dd'T'HH:mm:ss.SSSSSSxxx"

/-- The volume with what is found at a place. -/
def gatherPlace (volume : Volume) (place : Place) : IO Volume := do
  let path := (← IO.currentDir) / Volume.absolute place
  if ← path.isDir then return volume.addDirectory place
  else if ← path.pathExists then return volume.addFile place ⟨← IO.FS.readBinFile path⟩
  else return volume

/-- The volume with what is found along the parts of a path from a place on. -/
def gatherAlong (volume : Volume) (place : Place) : List String → IO Volume
  | [] => return volume
  | part :: rest => do
      let next := if part = ".." then place.dropLast else place ++ [part]
      gatherAlong (← gatherPlace volume next) next rest

/-- The volume with what is found along a path. -/
def gather (volume : Volume) (name : String) : IO Volume :=
  let path := Path.ofText name
  gatherAlong volume (volume.startOf path) path.parts

/-- The volume with the files that an invocation names. -/
def gatherNamed (volume : Volume) (invocation : Invocation) : IO Volume :=
  let names := invocation.files ++ invocation.output.toList ++ invocation.config.toList
  names.foldlM gather volume

/-- The volume with the log file that the settings of an invocation name, and its backups. -/
def gatherLog (source : SettingsSource) (volume : Volume) (invocation : Invocation) : IO Volume :=
  match source.load volume invocation.config with
  | .error _ => return volume
  | .ok settings =>
      match settings.globalSettings.logFile with
      | .text name => do
          let volume ← gather volume name
          let backups := (List.range LogFile.backupCount).map fun number =>
            name ++ "." ++ toString (number + 1)
          backups.foldlM gather volume
      | _ => return volume

/-- The volume that a request needs. -/
def volumeFor (source : SettingsSource) (request : Request) : IO Volume := do
  let volume := Volume.atDirectory (Path.ofText (← IO.currentDir).toString).parts
  match request with
  | .run invocation =>
      let volume ← gatherNamed (← gather volume source.default.text) invocation
      gatherLog source volume invocation
  | _ => return volume

/-- The settings of the document that is kept beside the program. -/
def settingsSource : IO SettingsSource := do
  let directory := ((← IO.appPath).parent.map toString).getD ""
  return { read := Toml.parse, default := Path.ofText (directory ++ "/elfdump.toml") }

/-- The columns of a line. -/
def lineWidth : IO Nat := do
  let columns ← IO.getEnv "COLUMNS"
  return (columns.bind String.toNat?).getD 80

/-- A log with the name that entries tell. -/
def namedLog : Log := { tool := "engine", level := Severity.debug.level }

/-- What a run finds around it. -/
def environment (source : SettingsSource) : IO Environment := do
  let screen : Screen := { width := ← lineWidth, render := Markup.render }
  let time ← now
  return {
    time := time
    output := screen
    diagnostics := screen
    settings := source
    entryText := fun isJson _ entry => entry.fileLine namedLog isJson time }

/-- Removes and stores files as a run has removed, made or changed them. -/
def store (before after : Volume) : IO Unit := do
  before.files.forM fun (place, _) =>
    if (after.files.lookup place).isNone then IO.FS.removeFile (Volume.absolute place)
    else return
  after.files.forM fun (place, content) => do
    if (before.files.lookup place).map Image.toList ≠ some content.toList then
      IO.FS.createDirAll (Volume.absolute place.dropLast)
      IO.FS.writeBinFile (Volume.absolute place) content.bytes

/-- The text of a diagnostic. -/
def diagnosticText : Diagnostic → String
  | .entry entry => entry.line namedLog
  | .line content => content

end Program
end ElfInspect

open ElfInspect in
/-- Runs the command line and exits with its code. -/
def main (words : List String) : IO UInt32 := do
  let source ← Program.settingsSource
  let volume ← Program.volumeFor source (Request.ofWords words)
  let outcome := Command.run (← Program.environment source) volume words
  Program.store volume outcome.volume
  outcome.stdout.forM (IO.println ·)
  outcome.stderr.forM fun diagnostic => IO.eprintln (Program.diagnosticText diagnostic)
  outcome.abort.forM fun abort => IO.eprintln abort.message
  return UInt32.ofNat (outcome.exitCode.toInt % 256).toNat
