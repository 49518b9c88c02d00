import Telemetry.Disk
import Telemetry.Metric.Validation

/-!
# Failures of storage

A store can refuse an update, fail to read or write its snapshot, or lose its database. Of all these only
some failures of a database may be got past by trying again: those of the connection.
-/

namespace Telemetry

/-- What is wrong with an address of a database. -/
inductive AddressFault
  | noScheme
  | emptyHost
  | badHost
  | badPort
  deriving DecidableEq, Repr

namespace AddressFault

/-- The wording of a fault. -/
def message : AddressFault → String
  | noScheme => "relative URL without a base"
  | emptyHost => "empty host"
  | badHost => "invalid domain character"
  | badPort => "invalid port number"

end AddressFault

/-- Why a call of the database failed. -/
inductive DatabaseError
  /-- The database answered with an error; the code is its five-character state. -/
  | reported (code : Option String) (message : String)
  | connectionLost
  | poolTimedOut
  | poolClosed
  | rowNotFound
  | workerCrashed
  | protocolViolated
  | columnNotFound
  | invalidAddress (fault : AddressFault)
  deriving DecidableEq, Repr

namespace DatabaseError

/-- The states of the database that concern the connection. -/
def retriableStates : List String :=
  ["08000", "08003", "08006", "08001", "08004", "08007"]

/-- Whether a state concerns the connection. -/
def isRetriableState (code : String) : Bool :=
  retriableStates.contains code

/-- Whether a new attempt may get past the failure. -/
def isRetriable : DatabaseError → Bool
  | reported code _ => code.any isRetriableState
  | connectionLost | poolTimedOut => true
  | _ => false

/-- The state that says that a number left its range. -/
def outOfRange : String := "22003"

/-- The wording of a failure. -/
def message : DatabaseError → String
  | reported _ message => "error returned from database: " ++ message
  | connectionLost => "connection lost"
  | poolTimedOut => "no connection became free in time"
  | poolClosed => "connections are closed"
  | rowNotFound => "no row was returned"
  | workerCrashed => "background worker crashed"
  | protocolViolated => "unexpected answer"
  | columnNotFound => "no such column"
  | invalidAddress fault => "error with configuration: " ++ fault.message

end DatabaseError

/-- Why a call of a store failed. -/
inductive StorageError
  | database (cause : DatabaseError)
  | snapshot (path : String) (cause : IoError)
  | snapshotFormat (path : String)
  | validation (cause : ValidationError)
  deriving DecidableEq, Repr

namespace StorageError

/-- Whether a new attempt may get past the failure. -/
def isRetriable : StorageError → Bool
  | database cause => cause.isRetriable
  | _ => false

/-- The wording of a failure. -/
def message : StorageError → String
  | database cause => "database error: " ++ cause.message
  | snapshot path cause => "snapshot file " ++ path ++ ": " ++ cause.message
  | snapshotFormat path => "malformed snapshot file " ++ path ++ ": <json error>"
  | validation cause => cause.message

/-- The wordings of the failures behind a failure; a refusal is not behind anything. -/
def causes : StorageError → List String
  | database cause => [cause.message]
  | snapshot _ cause => [cause.message]
  | snapshotFormat _ => ["<json error>"]
  | validation _ => []

end StorageError

end Telemetry
