import Telemetry.Http.Message
import Telemetry.Net.Subnet
import Telemetry.Payload.Error
import Telemetry.Service

/-!
# Refusals

Why the collector does not do what a request asks. Each cause has a status and a message; what the sender
got wrong is logged as a warning, and anything else as an error.
-/

namespace Telemetry

/-- Why a request is refused. -/
inductive Refusal
  | noRoute (path : String)
  | methodNotAllowed (method : String)
  | untrusted (address : Option String) (subnet : Subnet)
  | wrongType (expected : String)
  | invalidLength
  | declaredTooLong
  | bodyTooLong
  | payload (cause : PayloadError)
  | missingName
  | unknownMetric (cause : ValidationError)
  | service (cause : ServiceError)
  deriving DecidableEq, Repr

namespace Refusal

/-- The status of the response. -/
def status : Refusal → Status
  | noRoute _ => 404
  | methodNotAllowed _ => 405
  | untrusted _ _ => 403
  | wrongType _ => 415
  | invalidLength => 400
  | declaredTooLong => 413
  | bodyTooLong => 400
  | payload _ => 400
  | missingName => 404
  | unknownMetric _ => 404
  | service (.validation _) => 400
  | service (.notFound _ _) => 404
  | service (.storage _) => 500

/-- The message of the response. -/
def message : Refusal → String
  | noRoute path => "No route for " ++ path
  | methodNotAllowed method => "Method " ++ method ++ " not allowed"
  | untrusted address subnet =>
    "Source address " ++ address.getD "<missing>" ++ " is outside trusted subnet " ++ subnet.text
  | wrongType expected => "Content-Type must be " ++ expected
  | invalidLength => "Invalid Content-Length header"
  | declaredTooLong => "Payload too large"
  | bodyTooLong => "Failed to read request body: length limit exceeded"
  | payload .malformed => "Invalid JSON body: <json error>"
  | payload cause => "Invalid request payload: " ++ cause.message
  | missingName => "Metric name is required"
  | unknownMetric cause => cause.message
  | service cause => cause.message

end Refusal

/-- The line about a message that is sent with a status. -/
def LogLine.ofStatus (status : Status) (message : String) : List LogLine :=
  if status.isSuccess then []
  else if 400 ≤ status ∧ status < 500 then [.warning message]
  else [.error message]

end Telemetry
