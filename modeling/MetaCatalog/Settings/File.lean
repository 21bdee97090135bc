import MetaCatalog.Json.Printer
import MetaCatalog.Json.Reader
import MetaCatalog.Settings
import MetaCatalog.Settings.Disk
import MetaCatalog.Text.Utf8

/-!
# Settings in a file

Settings are kept as a JSON object, one member to a line, in ascending order
of the keys. A file that is not there stands for empty settings.
-/

namespace MetaCatalog

/-- What can go wrong with a settings file. -/
inductive SettingsFileError where
  /-- There is no file of text at the path. -/
  | unreadable (path : Path)
  /-- The text is no JSON object of texts. -/
  | malformed
  /-- The directory of the file cannot be made. -/
  | noDirectory (path : Path)
  /-- The file cannot be written. -/
  | unwritable (path : Path)
  deriving DecidableEq, Inhabited

/-- The text shown for an error. -/
def SettingsFileError.message : SettingsFileError → String
  | unreadable path => "Failed to read settings from " ++ path.quoted
  | malformed => "Failed to parse settings JSON"
  | noDirectory path => "Failed to create directory: " ++ path.quoted
  | unwritable path => "Failed to write settings to " ++ path.quoted

namespace Settings

/-- One member of the JSON object. -/
def memberText (entry : String × String) : List Char :=
  "  ".toList ++ Json.quote entry.1 ++ ": ".toList ++ Json.quote entry.2

/-- Members one to a line, with a comma after all but the last. -/
def memberLines : List (String × String) → List Char
  | [] => []
  | [entry] => memberText entry ++ ['\n']
  | entry :: next :: rest => memberText entry ++ [',', '\n'] ++ memberLines (next :: rest)

/-- The settings as a JSON document. -/
def print (settings : Settings) : String :=
  match settings.entries with
  | [] => "\x7b\x7d"
  | entries => String.ofList (['\x7b', '\n'] ++ memberLines entries ++ ['\x7d'])

/-- The settings that a JSON document holds. -/
def read? (text : String) : Option Settings := (Json.read? text).bind ofJson?

/-- The file that settings are kept in if no other is named. -/
def defaultPath (configuration : Path) : Path :=
  (configuration.within "ember").within "config.json"

/-- Loads the settings in a file. -/
def load (disk : Disk) (path : Path) : Except SettingsFileError Settings :=
  match disk.entry? path with
  | none => .ok empty
  | some .directory => .error (.unreadable path)
  | some (.file content) =>
    match Utf8.decode? content with
    | none => .error (.unreadable path)
    | some text =>
      match read? text with
      | some settings => .ok settings
      | none => .error .malformed

/-- Saves the settings in a file. Directories that were made stay also if the file cannot be
written. -/
def save (settings : Settings) (disk : Disk) (path : Path) :
    Except SettingsFileError Unit × Disk :=
  match disk.makeDirectory path.parent with
  | (false, disk) => (.error (.noDirectory path.parent), disk)
  | (true, disk) =>
    match disk.write? path (Utf8.encode settings.print) with
    | none => (.error (.unwritable path), disk)
    | some disk => (.ok (), disk)

end Settings

end MetaCatalog
