import Telemetry.Net.Url
import Telemetry.Retry
import Telemetry.Store.Backend
import Telemetry.Store.Database

/-!
# Storage in a database

A storage whose gauges and counters are the tables of a database. Every call is attempted again when its
failure concerns the connection. What a memory storage refuses, this one refuses with the same cause: a
gauge that is not finite before anything is sent, and a total that leaves its range when the database says
so.
-/

namespace Telemetry.DatabaseStorage

/-- A report that a number left its range, as the refusal of an update. -/
def counterError (name : String) : DatabaseError → StorageError
  | .reported (some code) message =>
    if code = DatabaseError.outOfRange then .validation (.counterOverflow name)
    else .database (.reported (some code) message)
  | cause => .database cause

/-- What the attempts of a call have in common. Waiting changes nothing. -/
def terms (label : String) : RetryTerms Database StorageError :=
  ⟨label, StorageError.isRetriable, StorageError.message, fun _ database => database⟩

/-- Attempts a call as often as the standard policy says. -/
def retrying {Result : Type} (label : String) (operation : Action Database StorageError Result) :
    Action Database StorageError Result :=
  (terms label).run RetryPolicy.standard operation

/-- Executes one statement. -/
def execute {Answer : Type} (statement : Statement Answer) : Action Database StorageError Answer :=
  (Database.execute statement).mapCause .database

/-- Executes an update in a transaction and gives the changed copy of the tables. -/
def updateWithin (copy : Store) : String × Value → Action Database StorageError Store
  | (name, .gauge value) => do
    let (changed, _) ← (Database.executeWithin copy (.upsertGauge name value)).mapCause .database
    return changed
  | (name, .counter delta) => do
    let (changed, _) ←
      (Database.executeWithin copy (.upsertCounter name delta)).mapCause (counterError name)
    return changed

/-- Executes updates in a transaction. -/
def updatesWithin (copy : Store) : List (String × Value) → Action Database StorageError Store
  | [] => .done copy
  | update :: updates => do
    let changed ← updateWithin copy update
    updatesWithin changed updates

/-- Executes updates as one, in a transaction that begins in the given way. -/
def transactionFrom (begin : Action Database DatabaseError Store) (updates : List (String × Value)) :
    Action Database StorageError Unit := do
  let copy ← begin.mapCause .database
  let changed ← updatesWithin copy updates
  (Database.commit changed).mapCause .database

/-- Executes updates as one. -/
def transaction (updates : List (String × Value)) : Action Database StorageError Unit :=
  transactionFrom Database.begin updates

/-- The calls of a storage in a database where transactions begin in the given way. -/
def backendFrom (begin : Action Database DatabaseError Store) : Backend Database where
  ping := retrying "ping" (execute .ping)
  updateGauge name value := do
    Action.ofExcept (value.checkGauge.mapError .validation)
    retrying "update gauge" (execute (.upsertGauge name value))
  updateCounter name delta :=
    retrying "update counter"
      ((Database.execute (.upsertCounter name delta)).mapCause (counterError name))
  getGauge name := retrying "get gauge" (execute (.getGauge name))
  getCounter name := retrying "get counter" (execute (.getCounter name))
  gaugeNames := retrying "list gauges" (execute .listGauges)
  counterNames := retrying "list counters" (execute .listCounters)
  updateBatch records := do
    Action.report (Batch.planLog records)
    let updates ← Action.ofExcept ((Batch.plan records).mapError .validation)
    retrying "batch update" (transactionFrom begin updates)

/-- The calls of a storage in a database. -/
def backend : Backend Database :=
  backendFrom Database.begin

/-- The port of a database whose address names none. -/
def standardPort : Nat := 5432

/-- What is wrong with a text between two slashes and the path. It may be empty; else it names a host. -/
def placeFault? (text : List Char) : Option AddressFault :=
  let place := Url.withoutUser text
  let (host, port) := Text.cut ':' place
  if text.isEmpty || (Url.hostAndPort? standardPort place).isSome then none
  else if host.isEmpty then some .emptyHost
  else if (Url.hostAndPort? standardPort host).isSome && port.isSome then some .badPort
  else some .badHost

/-- Whether a text may be the name of a scheme. -/
def isScheme : List Char → Bool
  | [] => false
  | first :: rest => first.isAlpha && rest.all fun character =>
      character.isAlphanum || character == '+' || character == '-' || character == '.'

/-- What is wrong with an address of a database: it has a scheme and what that leads to. -/
def addressFault? (address : String) : Option AddressFault :=
  match Text.cut ':' (Url.cleaned address.toList) with
  | (_, none) => some .noScheme
  | (scheme, some rest) =>
    if !isScheme scheme then some .noScheme
    else match rest with
      | '/' :: '/' :: rest => placeFault? (rest.takeWhile fun character => !Url.endsHost character)
      | _ => none

/-- Connects to a database and creates the tables that are missing. -/
def start (address : String) : Action Database StorageError Unit := do
  retrying "connect to database" <|
    match addressFault? address with
    | none => Database.ensureConnected.mapCause .database
    | some fault => .fail (.database (.invalidAddress fault))
  retrying "create tables" do
    execute .createGauges
    execute .createCounters

end Telemetry.DatabaseStorage
