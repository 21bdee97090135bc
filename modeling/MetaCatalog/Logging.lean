import MetaCatalog.Settings.Disk

/-!
# Logging profiles

Where messages go, and which of them. A filter names the least important level
that is kept, first for everything and then for each part of the program.
-/

namespace MetaCatalog

/-- Where messages go, and which of them. -/
structure LoggingProfile where
  directory : Path
  toFile : Bool
  toConsole : Bool
  filter : String
  deriving DecidableEq, Inhabited

namespace LoggingProfile

/-- The parts of the program that have a level of their own. -/
def parts : List String := ["ember_core", "ember_settings", "ember_metadata", "ember_history"]

/-- The filter with one level for the parts of the program and another for
everything else. -/
def filterOf (base own : String) : String :=
  parts.foldl (fun filter part => filter ++ "," ++ part ++ "=" ++ own) base

/-- The directory of the log files. -/
def directoryIn (data : Path) : Path := (data.within "ember").within "logs"

/-- Much on the console. -/
def development (data : Path) : LoggingProfile :=
  { directory := directoryIn data
    toFile := false
    toConsole := true
    filter := filterOf "info" "debug" }

/-- The essentials in files. -/
def production (data : Path) : LoggingProfile :=
  { directory := directoryIn data
    toFile := true
    toConsole := false
    filter := filterOf "warn" "info" }

/-- The profile with a name. -/
def named (name : String) (data : Path) : LoggingProfile :=
  if name = "production" then production data else development data

end LoggingProfile

end MetaCatalog
