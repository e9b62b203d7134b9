import ElfInspect.Command.Arguments
import ElfInspect.Files.DumpFile
import ElfInspect.Files.LogFile
import ElfInspect.Files.SettingsFile
import ElfInspect.Report
import ElfInspect.Value.Display

/-!
# Runs of the command

A run takes the files one after the other.  Each of them adds either a dump or a failure to the
session, and no failure keeps the run from the files behind it.  At the end the session is
reported, and the exit code tells of failures first and of warnings second.

Settings are not checked when they are loaded.  One of the wrong kind breaks the run off where it is
needed; what was written before remains.
-/

namespace ElfInspect

/-- A reason for which a run breaks off. -/
inductive Abort where
  /-- A group of settings is not a table. -/
  | settingsGroup
  /-- The settings nest deeper than they may. -/
  | settingsDepth
  /-- The name of the log level is not a text. -/
  | logLevel
  /-- The name of the log level is that of something else. -/
  | namedLevel (fault : LevelFault)
  /-- The path of the log file is not a text. -/
  | logPath
  /-- The size limit is not a number. -/
  | sizeLimit
  /-- The width of names is not a number. -/
  | nameWidth
  /-- The marks of a text do not fit together. -/
  | marks
  /-- A path cannot be used. -/
  | unusable (fault : FileFault)
  deriving DecidableEq, Repr

/-- The message that tells why a run breaks off. -/
def Abort.message : Abort → String
  | settingsGroup => "a group of settings is not a table"
  | settingsDepth => "the settings nest too deep"
  | logLevel => "log_level is not a text"
  | namedLevel fault => fault.message
  | logPath => "log_file is not a text"
  | sizeLimit => "max_file_size is not a number"
  | nameWidth => "name_width is not a number"
  | marks => "a text cannot be shown, because its marks do not fit together"
  | unusable fault => fault.message

/-- The reason for which a run breaks off where writing stops. -/
def Abort.ofPageFault : PageFault → Abort
  | .nameWidth => .nameWidth
  | .marks => .marks

/-- The code with which a run ends.  Settings may give a truth value in place of a number. -/
inductive ExitCode where
  | number (code : Int)
  | truth (value : Bool)
  deriving DecidableEq, Repr

/-- The number of an exit code. -/
def ExitCode.toInt : ExitCode → Int
  | number code => code
  | truth value => if value then 1 else 0

/-- What is told besides the output. -/
inductive Diagnostic where
  /-- An entry of the log. -/
  | entry (entry : LogEntry)
  /-- A line of a message. -/
  | line (content : String)

/-- The lines of a page as diagnostics. -/
def Diagnostic.ofPage (page : Page) : List Diagnostic := page.lines.map .line

/-- What a run finds around it besides the files. -/
structure Environment where
  /-- The time that reports tell. -/
  time : String
  /-- What shows the output. -/
  output : Screen
  /-- What shows diagnostics. -/
  diagnostics : Screen
  /-- How settings are found. -/
  settings : SettingsSource
  /-- The text of an entry in a log file, by the number of the entry. -/
  entryText : (isJson : Bool) → (number : Nat) → LogEntry → String

/-- What a run leaves behind. -/
structure Outcome where
  /-- The exit code. -/
  exitCode : ExitCode
  /-- The lines of output. -/
  stdout : List String := []
  /-- The diagnostics. -/
  stderr : List Diagnostic := []
  /-- The files after the run. -/
  volume : Volume
  /-- Why the run broke off, if it did. -/
  abort : Option Abort := none

namespace Command

/-! ## Preparation -/

/-- The lines that describe the options. -/
def helpLines : List String :=
  ["Usage: elfdump [OPTIONS] FILES...",
    "",
    "  Elfdump -- display information about ELF format files.",
    "",
    "  FILES are the ELF objects to inspect.",
    "",
    "Options:",
    "  -a, --all                       Equivalent to: -h -l -S -s -D",
    "  -h, --file-header               Display the ELF file header.",
    "  -l, --program-headers, --segments",
    "                                  Display the program headers and section-to-",
    "                                  segment mapping.",
    "  -S, --section-headers, --sections",
    "                                  Display the section headers.",
    "  -s, --syms, --symbols           Display the symbol tables (.symtab and",
    "                                  .dynsym).",
    "  -d, --dyn-syms                  Display the dynamic symbol table only.",
    "  -D, --dynamic                   Display the dynamic section.",
    "  --json                          Write a JSON report to stdout instead of",
    "                                  tables.",
    "  -o, --output PATH               Also write a JSON report to this path.",
    "  -c, --config PATH               Path to an elfdump.toml configuration file.",
    "  -v, --verbose                   Enable debug logging on stderr.",
    "  --version                       Show the version and exit.",
    "  --help                          Show this message and exit."]

/-- The lines that follow a command line without sense. -/
def usageLines : List String :=
  ["Usage: elfdump [OPTIONS] FILES...", "Try 'elfdump --help' for help."]

/-- The level of the log. -/
def logLevel (verbose : Bool) (settings : GlobalSettings) : Except Abort Nat :=
  if verbose || settings.debug.isTruthy then .ok Severity.debug.level
  else
    match settings.logLevel with
    | .text name => (Log.levelOfName name).mapError .namedLevel
    | _ => .error .logLevel

/-- The path of the log file, if there is to be one. -/
def logPath (settings : GlobalSettings) : Except Abort (Option Path) :=
  match settings.logFile with
  | .null => .ok none
  | .text name => .ok (some (Path.ofText name))
  | _ => .error .logPath

/-- Opens the log file that the settings name. -/
def openLog (volume : Volume) (settings : GlobalSettings) :
    Except Abort (Volume × Option LogFile) := do
  match ← logPath settings with
  | none => return (volume, none)
  | some path =>
      let (volume, file) ←
        (LogFile.openAt volume path settings.logJson.isTruthy).mapError .unusable
      return (volume, some file)

/-- All that a run has to go by. -/
structure Plan where
  /-- What the run is to do. -/
  invocation : Invocation
  /-- The settings. -/
  settings : Settings
  /-- The level of the log. -/
  level : Nat
  /-- The files when the first one is taken. -/
  volume : Volume
  /-- The log file. -/
  logFile : Option LogFile
  /-- What the run finds around it. -/
  environment : Environment

namespace Plan

/-- The plan of an invocation under its settings. -/
def make (environment : Environment) (volume : Volume) (invocation : Invocation)
    (settings : Settings) : Except Abort Plan := do
  let level ← logLevel invocation.verbose settings.globalSettings
  let (volume, logFile) ← openLog volume settings.globalSettings
  return {
    invocation := invocation
    settings := settings
    level := level
    volume := volume
    logFile := logFile
    environment := environment }

/-- The files once a log is written. -/
def volumeAfter (plan : Plan) (log : Log) : Volume :=
  match plan.logFile with
  | none => plan.volume
  | some file =>
      file.write plan.volume (log.entries.mapIdx (plan.environment.entryText file.isJson))

/-- The result for a file, and the log with an account of it. -/
def decode (plan : Plan) (name : String) (log : Log) : Except DumpFault Dump × Log :=
  Dump.decodeFile (plan.volumeAfter log) plan.settings.dump.maxFileSize.number? name log

/-- Whether each file is announced by its path. -/
def announces (plan : Plan) : Bool := 1 < plan.invocation.files.length

/-- What is shown of a file with a dump. -/
def block (plan : Plan) (name : String) (dump : Dump) : Page :=
  let screen := plan.environment.output
  (if plan.announces then Console.print screen ("File: " ++ Markup.escape name) else {}) ++
    Display.page screen plan.settings.dump.nameWidth.number? plan.invocation.parts dump

/-- What is shown of the file at a place among the arguments. -/
def page (plan : Plan) (index : Nat) (name : String) (dump : Dump) : Page :=
  (if plan.announces && index != 0 then Console.blank else {}) ++ plan.block name dump

/-- What is told of a failure. -/
def complaint (plan : Plan) (failure : Failure) : Page :=
  Console.error plan.environment.diagnostics
    (Markup.escape (failure.path ++ ": " ++ failure.message))

end Plan

/-! ## The files -/

/-- How far a run has come. -/
structure Session where
  /-- The log. -/
  log : Log
  /-- The lines of output. -/
  stdout : List String := []
  /-- The diagnostics. -/
  stderr : List Diagnostic := []
  /-- The dumps in the order of the files. -/
  dumps : List Dump := []
  /-- The failures in the order of the files. -/
  failures : List Failure := []
  /-- Why the run broke off, if it did. -/
  abort : Option Abort := none

namespace Session

/-- The session before the first file. -/
def start (plan : Plan) : Session := { log := { tool := "engine", level := plan.level } }

/-- The session with a log that has grown; its new entries are told as diagnostics. -/
def follow (session : Session) (log : Log) : Session :=
  { session with
    log := log
    stderr := session.stderr ++
      (log.entries.drop session.log.entries.length).map Diagnostic.entry }

/-- The session after a file with a dump.  The dump is made into a page even if it is not shown. -/
def addDump (session : Session) (plan : Plan) (index : Nat) (name : String) (dump : Dump) :
    Session :=
  let page := plan.page index name dump
  { session with
    stdout := session.stdout ++ if plan.invocation.json then [] else page.lines
    dumps := session.dumps ++ [dump]
    abort := page.fault.map Abort.ofPageFault }

/-- The session after a file that has no dump. -/
def addFailure (session : Session) (plan : Plan) (failure : Failure) : Session :=
  let session :=
    session.follow (session.log.add .debug ("Decoding " ++ failure.path ++ " failed"))
  let page := plan.complaint failure
  { session with
    stderr := session.stderr ++ Diagnostic.ofPage page
    failures := session.failures ++ [failure]
    abort := page.fault.map Abort.ofPageFault }

/-- The session after one more file. -/
def take (session : Session) (plan : Plan) (index : Nat) (name : String) : Session :=
  let (result, log) := plan.decode name session.log
  let session := session.follow log
  match result with
  | .ok dump => session.addDump plan index name dump
  | .error .limitNotNumber => { session with abort := some .sizeLimit }
  | .error fault => session.addFailure plan { path := name, message := fault.message }

/-- The session after the rest of the files, the first of which has a given place among the
arguments. -/
def takeAll (session : Session) (plan : Plan) : (index : Nat) → List String → Session
  | _, [] => session
  | index, name :: rest =>
      if session.abort.isSome then session
      else (session.take plan index name).takeAll plan (index + 1) rest

/-- The report of the session. -/
def report (session : Session) (time : String) : Report :=
  { time := time, dumps := session.dumps, failures := session.failures }

/-- Whether any dump has warnings. -/
def hasWarnings (session : Session) : Bool := session.dumps.any Dump.hasWarnings

/-- The exit code, with the text that is shown in place of one that is no number. -/
def exitStatus (session : Session) (settings : DumpSettings) : ExitCode × List String :=
  if !session.failures.isEmpty then (.number 1, [])
  else if session.hasWarnings then
    match settings.warningsExitCode with
    | .integer code => (.number code, [])
    | .boolean value => (.truth value, [])
    | value => (.number 1, value.display.splitOn "\n")
  else (.number 0, [])

end Session

/-! ## The end -/

/-- The outcome of a run that broke off. -/
def brokenOff (volume : Volume) (stdout : List String) (stderr : List Diagnostic)
    (abort : Abort) : Outcome :=
  { exitCode := .number 1
    stdout := stdout
    stderr := stderr
    volume := volume
    abort := some abort }

/-- Writes the report, if there is a path for it, and tells where it is. -/
def writeReport (screen : Screen) (volume : Volume) (output : Option String) (report : Report) :
    Except FileFault (Volume × Page) := do
  match output with
  | none => return (volume, {})
  | some "" => return (volume, {})
  | some name =>
      let content : Image := ⟨("\n".intercalate report.lines).toUTF8⟩
      let (volume, place) ← volume.write (Path.ofText name) content
      let told := Markup.escape ("JSON report saved: " ++ Volume.absolute place)
      return (volume, Console.success screen told)

/-- The outcome of a session in which all files were taken. -/
def close (plan : Plan) (session : Session) : Outcome :=
  let report := session.report plan.environment.time
  let stdout := session.stdout ++ if plan.invocation.json then report.lines else []
  let volume := plan.volumeAfter session.log
  match writeReport plan.environment.diagnostics volume plan.invocation.output report with
  | .error fault => brokenOff volume stdout session.stderr (.unusable fault)
  | .ok (volume, page) =>
      let stderr := session.stderr ++ Diagnostic.ofPage page
      match page.fault with
      | some fault => brokenOff volume stdout stderr (.ofPageFault fault)
      | none =>
          let (exitCode, shown) := session.exitStatus plan.settings.dump
          { exitCode := exitCode, stdout := stdout ++ shown, stderr := stderr, volume := volume }

/-- The outcome of a session. -/
def finish (plan : Plan) (session : Session) : Outcome :=
  match session.abort with
  | some abort =>
      brokenOff (plan.volumeAfter session.log) session.stdout session.stderr abort
  | none => close plan session

/-- Runs an invocation under its settings. -/
def perform (environment : Environment) (volume : Volume) (invocation : Invocation)
    (settings : Settings) : Outcome :=
  match Plan.make environment volume invocation settings with
  | .error abort => brokenOff volume [] [] abort
  | .ok plan => finish plan ((Session.start plan).takeAll plan 0 invocation.files)

/-- The outcome of a command line without sense. -/
def misused (volume : Volume) : Outcome :=
  { exitCode := .number 2, stderr := usageLines.map .line, volume := volume }

/-- The outcome of a path that no file can have. -/
def unnamed (volume : Volume) (path : String) : Outcome :=
  brokenOff volume [] [] (.unusable (.unnameable path))

/-- The outcome of a run with a file that is refused at sight: a directory, or a path that no file
can have. -/
def refusal? (volume : Volume) (name : String) : Option Outcome :=
  if !Path.isNameable name then some (unnamed volume name)
  else if volume.isDirectory name then some (misused volume)
  else none

/-- The outcome of a run whose settings cannot be loaded. -/
def unloaded (environment : Environment) (volume : Volume) : SettingsFileFault → Outcome
  | .document _ (.groupNotTable _) => brokenOff volume [] [] .settingsGroup
  | .document _ (.document .tooDeep) => brokenOff volume [] [] .settingsDepth
  | fault =>
      let page := Console.error environment.diagnostics
        (Markup.escape ("cannot load configuration: " ++ fault.message))
      { exitCode := .number 1
        stderr := Diagnostic.ofPage page
        volume := volume
        abort := page.fault.map Abort.ofPageFault }

/-- Runs an invocation, if none of its files is refused at sight. -/
def invoke (environment : Environment) (volume : Volume) (invocation : Invocation) : Outcome :=
  match invocation.files.findSome? (refusal? volume) with
  | some outcome => outcome
  | none =>
      match environment.settings.load volume invocation.config with
      | .ok settings => perform environment volume invocation settings
      | .error fault => unloaded environment volume fault

/-- Runs a command line. -/
def run (environment : Environment) (volume : Volume) (words : List String) : Outcome :=
  match Request.ofWords words with
  | .misuse => misused volume
  | .unnameable path => unnamed volume path
  | .version =>
      { exitCode := .number 0
        stdout := ["elfdump, version " ++ Report.programVersion]
        volume := volume }
  | .help => { exitCode := .number 0, stdout := helpLines, volume := volume }
  | .run invocation => invoke environment volume invocation

end Command
end ElfInspect
