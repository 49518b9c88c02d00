import Telemetry.Http.Status
import Telemetry.Payload.Error
import Telemetry.Setting.Error

/-!
# Failures of the agent

A batch can fail to be sent, and an agent can fail to start. Each failure has a message, and `causes` are
the messages of the failures behind it, nearest first.
-/

namespace Telemetry

/-- Why records were not delivered. -/
inductive SendError
  | emptyBatch
  | encode (cause : PayloadError)
  /-- The address of the collector is none. -/
  | badAddress
  /-- No answer came. -/
  | noAnswer
  | refused (status : Status) (body : String)
  deriving DecidableEq, Repr

namespace SendError

/-- Whether another attempt may get past the failure. -/
def isRetriable : SendError → Bool
  | noAnswer => true
  | refused status _ => status.isPassing
  | _ => false

/-- The wording of a failure. -/
def message : SendError → String
  | emptyBatch => "empty metrics batch"
  | encode cause => "failed to encode payload: " ++ cause.message
  | badAddress => "transport error: malformed address"
  | noAnswer => "transport error: no answer"
  | refused status body => "collector answered " ++ status.text ++ ": " ++ body

/-- The wordings of the failures behind a failure. -/
def causes : SendError → List String
  | encode cause => cause.message :: cause.causes
  | _ => []

end SendError

/-- Why an agent did not start. -/
inductive AgentError
  | setting (cause : SettingError)
  | key (cause : PayloadError)
  | sender (cause : SendError)
  deriving DecidableEq, Repr

namespace AgentError

/-- The wording of a failure. -/
def message : AgentError → String
  | setting cause => "configuration error: " ++ cause.message
  | key cause => "failed to load encryption key: " ++ cause.message
  | sender cause => "failed to build HTTP sender: " ++ cause.message

/-- The wordings of the failures behind a failure. -/
def causes : AgentError → List String
  | setting cause => cause.message :: cause.causes
  | key cause => cause.message :: cause.causes
  | sender cause => cause.message :: cause.causes

end AgentError

end Telemetry
