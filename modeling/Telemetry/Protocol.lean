/-!
# What agent and collector agree on

Records travel in the bodies of requests to two paths. Two headers go with them: the signature of the body
and the address that a request comes from.
-/

namespace Telemetry.Protocol

/-- The path that takes a list of records. -/
def batchPath : String := "/updates/"

/-- The path that takes one record. -/
def recordPath : String := "/update/"

/-- The header with the signature of a body. -/
def signatureHeader : String := "HashSHA256"

/-- The header with the address that a request comes from. -/
def addressHeader : String := "X-Real-IP"

end Telemetry.Protocol
