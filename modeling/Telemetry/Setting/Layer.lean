import Telemetry.Json.Fields
import Telemetry.Setting.Error
import Telemetry.Setting.LogFilter
import Telemetry.Time

/-!
# Layers of settings

A setting comes from a variable of the environment, or else from a file, or else it has its default.
Numbers and flags treat a blank variable as if it were not there; for a text, what a blank variable means
depends on the setting, so `nonBlank` is applied to one layer or to the outcome of several.
-/

namespace Telemetry

/-- The variables of an environment. -/
abbrev Environment := String → Option String

namespace Setting

/-- Nothing in the place of a blank text. -/
def nonBlank (value : Option String) : Option String :=
  value.filter fun text => !Text.isAllBlank text

/-- The value of a variable, if it is set and not blank. -/
def ofVariable {Datum : Type} (read? : String → Option Datum) (environment : Environment)
    (name : String) : Except SettingError (Option Datum) :=
  match nonBlank (environment name) with
  | none => .ok none
  | some raw =>
    match read? (Text.trim raw) with
    | some value => .ok (some value)
    | none => .error (.invalidVariable name raw)

/-- Reads a natural number of 64 bits. -/
def natural? (text : String) : Option Nat :=
  boundedNatural? wordLimit text

/-- The names of the two truth values. -/
def flagNames : List (String × Bool) :=
  [("1", true), ("true", true), ("yes", true), ("0", false), ("false", false), ("no", false)]

/-- Reads a truth value by one of its names, in any letter case. -/
def flag? (text : String) : Option Bool :=
  flagNames.lookup (Text.lowercase text)

/-- The default level of the log. -/
def standardLevel : String := "info"

/-- The level of the log from the layers. -/
def logLevel (environment : Environment) (fromFile : Option String) : String :=
  ((nonBlank (environment "LOG_LEVEL" <|> fromFile)).map Text.lowercase).getD standardLevel

/-- Checks the level of the log. -/
def checkLogLevel (level : String) : Except SettingError Unit :=
  (LogFilter.check level).mapError fun cause => .invalid cause.message

/-- The path of the file of settings, if the variable `CONFIG` names one. -/
def filePath (environment : Environment) : Option String :=
  nonBlank (environment "CONFIG")

/-- The settings in the file that the environment names, or those of an empty file. -/
def file {File : Type} (empty : File) (ofJson? : Json → Option File) (disk : Disk)
    (environment : Environment) : Except SettingError File :=
  match filePath environment with
  | none => .ok empty
  | some path =>
    match disk.readText path with
    | .error cause => .error (.file path cause)
    | .ok text =>
      match (Json.ofBytes? (Text.utf8 text)).bind ofJson? with
      | some file => .ok file
      | none => .error (.fileFormat path)

end Setting

end Telemetry
