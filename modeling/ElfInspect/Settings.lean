import ElfInspect.Toml.Document

/-!
# Settings

Settings start from defaults, and a document replaces those that it names.  Values are taken as they
are written, whatever their kind.
-/

namespace ElfInspect

/-- Settings of the log and of the program as a whole. -/
structure GlobalSettings where
  /-- The name of the log level. -/
  logLevel : Value := .text "WARNING"
  /-- The path of the log file. -/
  logFile : Value := .null
  /-- Whether the log file holds JSON. -/
  logJson : Value := .boolean false
  /-- Whether everything is logged. -/
  debug : Value := .boolean false
  /-- The version of the settings. -/
  version : Value := .text "1.0.0"

/-- Settings of dumps and their display. -/
structure DumpSettings where
  /-- The size above which a file is not read. -/
  maxFileSize : Value := .integer 268435456
  /-- The exit code of a run with warnings. -/
  warningsExitCode : Value := .integer 2
  /-- The width of the name column. -/
  nameWidth : Value := .integer 24
  /-- Whether colours are used. -/
  color : Value := .boolean true

/-- All settings. -/
structure Settings where
  /-- Settings of the log and of the program as a whole. -/
  globalSettings : GlobalSettings := {}
  /-- Settings of dumps and their display. -/
  dump : DumpSettings := {}

/-- A reason for which a settings document gives no settings. -/
inductive SettingsFault where
  /-- The document has no values. -/
  | document (flaw : Toml.Flaw)
  /-- A group of settings is not a table. -/
  | groupNotTable (group : String)
  deriving DecidableEq, Repr

namespace Settings

/-- The value of a table under a name, or the default. -/
def override (table : Toml.Entries) (name : String) (default : Value) : Value :=
  (Value.entry? name table).getD default

/-- The global settings that a table names, with defaults for the others. -/
def globalOf (table : Toml.Entries) : GlobalSettings :=
  let default : GlobalSettings := {}
  { logLevel := override table "log_level" default.logLevel
    logFile := override table "log_file" default.logFile
    logJson := override table "log_json" default.logJson
    debug := override table "debug" default.debug
    version := override table "version" default.version }

/-- The dump settings that a table names, with defaults for the others. -/
def dumpOf (table : Toml.Entries) : DumpSettings :=
  let default : DumpSettings := {}
  { maxFileSize := override table "max_file_size" default.maxFileSize
    warningsExitCode := override table "warnings_exit_code" default.warningsExitCode
    nameWidth := override table "name_width" default.nameWidth
    color := override table "color" default.color }

/-- The group of settings with a given name, empty if the document has none. -/
def group (entries : Toml.Entries) (name : String) : Except SettingsFault Toml.Entries :=
  match Value.entry? name entries with
  | none => .ok []
  | some (.record table) => .ok table
  | some _ => .error (.groupNotTable name)

/-- The settings that the entries of a document give. -/
def ofEntries (entries : Toml.Entries) : Except SettingsFault Settings := do
  let globalTable ← group entries "global"
  let dumpTable ← group entries "dump"
  return { globalSettings := globalOf globalTable, dump := dumpOf dumpTable }

/-- The settings as a value. -/
def toValue (settings : Settings) : Value :=
  let general := settings.globalSettings
  let dump := settings.dump
  .record
    [("global_settings", .record
        [("log_level", general.logLevel), ("log_file", general.logFile),
          ("log_json", general.logJson), ("debug", general.debug),
          ("version", general.version)]),
      ("dump", .record
        [("max_file_size", dump.maxFileSize), ("warnings_exit_code", dump.warningsExitCode),
          ("name_width", dump.nameWidth), ("color", dump.color)])]

end Settings

end ElfInspect
