import Telemetry.Disk

/-!
# Failures of settings
-/

namespace Telemetry

/-- Why settings could not be made from the environment and a file. -/
inductive SettingError
  | file (path : String) (cause : IoError)
  | fileFormat (path : String)
  | invalidVariable (name raw : String)
  | invalid (reason : String)
  deriving DecidableEq, Repr

namespace SettingError

/-- The wording of a failure. -/
def message : SettingError → String
  | file path cause => "failed to read config file " ++ path ++ ": " ++ cause.message
  | fileFormat path => "failed to parse config file " ++ path ++ ": <json error>"
  | invalidVariable name raw => "invalid value '" ++ raw ++ "' for " ++ name
  | invalid reason => "invalid configuration: " ++ reason

/-- The wordings of the failures behind a failure. -/
def causes : SettingError → List String
  | file _ cause => [cause.message]
  | fileFormat _ => ["<json error>"]
  | _ => []

/-- An address without a host. -/
def emptyAddress : SettingError :=
  invalid "ADDRESS cannot be empty"

/-- An address without a port. -/
def addressForm (address : String) : SettingError :=
  invalid ("ADDRESS '" ++ address ++ "' must be in host:port form")

/-- A duration that has to be positive. -/
def notPositive (name : String) : SettingError :=
  invalid (name ++ " must be greater than 0")

end SettingError

end Telemetry
