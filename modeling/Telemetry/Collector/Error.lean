import Telemetry.Payload.Error
import Telemetry.Setting.Error
import Telemetry.Store.Error

/-!
# Failures of the collector as a whole
-/

namespace Telemetry

/-- Why a collector did not start or stopped before it was told to. -/
inductive CollectorError
  | setting (cause : SettingError)
  | key (cause : PayloadError)
  | storage (cause : StorageError)
  | bind (address : String) (cause : IoError)
  | serve (cause : IoError)
  deriving DecidableEq, Repr

namespace CollectorError

/-- The wording of a failure. -/
def message : CollectorError → String
  | setting cause => "configuration error: " ++ cause.message
  | key cause => "failed to load decryption key: " ++ cause.message
  | storage cause => "failed to open storage: " ++ cause.message
  | bind address cause => "failed to bind " ++ address ++ ": " ++ cause.message
  | serve cause => "server error: " ++ cause.message

/-- The wordings of the failures behind a failure. -/
def causes : CollectorError → List String
  | setting cause => cause.message :: cause.causes
  | key cause => cause.message :: cause.causes
  | storage cause => cause.message :: cause.causes
  | bind _ cause => [cause.message]
  | serve cause => [cause.message]

end CollectorError

end Telemetry
