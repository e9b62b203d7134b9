import ElfInspect.Files.Volume
import ElfInspect.Settings

/-!
# Settings of files

Settings come from a file if one is named, and otherwise from a default file, which may be missing.
A cache keeps the settings that were loaded last for those who name no file.
-/

namespace ElfInspect

/-- A reason for which a file gives no settings. -/
inductive SettingsFileFault where
  /-- There is nothing at the path. -/
  | missing (path : String)
  /-- The file cannot be read. -/
  | unreadable (fault : FileFault)
  /-- The file holds no text. -/
  | notText (path : String)
  /-- The document gives no settings. -/
  | document (path : String) (fault : SettingsFault)
  deriving DecidableEq, Repr

/-- The message that tells why a file gives no settings. -/
def SettingsFileFault.message : SettingsFileFault → String
  | missing path => "Configuration file not found: " ++ path
  | unreadable fault => fault.message
  | notText path => path ++ " is not a UTF-8 text"
  | document path (.document .malformed) => path ++ " is not a well-formed TOML document"
  | document path (.document .numberTooLong) => "a number is too long in " ++ path
  | document path (.document .tooDeep) => "values nest too deep in " ++ path
  | document path (.groupNotTable group) => group ++ " is not a table in " ++ path

namespace Settings

/-- The text of the file at a path. -/
def readText (volume : Volume) (path : Path) : Except SettingsFileFault String :=
  match volume.find path with
  | .error (.tooLong name) => .error (.unreadable (.tooLong name))
  | .error _ => .error (.missing path.text)
  | .ok .directory => .error (.unreadable (.isDirectory path.text))
  | .ok (.file content) =>
      match String.fromUTF8? content.bytes with
      | none => .error (.notText path.text)
      | some document => .ok document

end Settings

/-- How settings are found. -/
structure SettingsSource where
  /-- Reads a document. -/
  read : String → Except Toml.Flaw Toml.Entries
  /-- The default file. -/
  default : Path

namespace SettingsSource

/-- The settings that a document gives. -/
def parse (source : SettingsSource) (document : String) : Except SettingsFault Settings :=
  match source.read document with
  | .error flaw => .error (.document flaw)
  | .ok entries => Settings.ofEntries entries

/-- The settings that a file gives. -/
def ofFile (source : SettingsSource) (volume : Volume) (path : Path) :
    Except SettingsFileFault Settings := do
  let document ← Settings.readText volume path
  (source.parse document).mapError (.document path.text)

/-- The settings of a named file, or those of the default file, which are the defaults if it is
missing. -/
def load (source : SettingsSource) (volume : Volume) :
    Option String → Except SettingsFileFault Settings
  | some name => source.ofFile volume (Path.ofText name)
  | none =>
      match source.ofFile volume source.default with
      | .error (.missing _) => .ok {}
      | loaded => loaded

end SettingsSource

/-- A request for settings. -/
structure SettingsRequest where
  /-- The files at the time of the request. -/
  volume : Volume
  /-- The file whose settings are wanted, or none in particular. -/
  path : Option String := none

/-- What is kept from one request for settings to the next. -/
structure SettingsCache where
  /-- The settings that were loaded last. -/
  latest : Option Settings := none

namespace SettingsCache

/-- What is answered and kept after settings were loaded, or could not be. -/
def remember (cache : SettingsCache) :
    Except SettingsFileFault Settings → Except SettingsFileFault Settings × SettingsCache
  | .ok settings => (.ok settings, { latest := some settings })
  | .error fault => (.error fault, cache)

/-- Answers a request.  Settings are loaded if it names a file or none were loaded before. -/
def get (source : SettingsSource) (cache : SettingsCache) (request : SettingsRequest) :
    Except SettingsFileFault Settings × SettingsCache :=
  match request.path, cache.latest with
  | none, some settings => (.ok settings, cache)
  | _, _ => cache.remember (source.load request.volume request.path)

/-- The answers to requests, one after the other. -/
def answers (source : SettingsSource) (cache : SettingsCache) :
    List SettingsRequest → List (Except SettingsFileFault Settings)
  | [] => []
  | request :: rest =>
      (cache.get source request).1 :: answers source (cache.get source request).2 rest

end SettingsCache
end ElfInspect
