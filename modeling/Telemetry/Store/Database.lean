import Telemetry.Action
import Telemetry.Store.Statement

/-!
# Databases

A database holds tables and is reached over a connection. Statements are executed one by one, each at once
for good, or in a transaction, where they work on a copy of the tables that the commit puts in their place.

Connections and statements can fail. A fault is met by the next statement or commit: it reports a failure
and has no effect, or it has its effect and reports a failure all the same. So whoever gets a failure
cannot tell in general what has become of the tables; but of a transaction there is never a part in them.
-/

namespace Telemetry

/-- What goes wrong with one statement or commit. -/
structure Fault where
  cause : DatabaseError
  /-- Whether it has its effect all the same. -/
  takesEffect : Bool
  deriving DecidableEq, Repr

/-- A database and the way to it. -/
structure Database where
  tables : Store
  connected : Bool
  /-- What goes wrong with the connections to come, in order. -/
  refusals : List (Option DatabaseError)
  /-- What goes wrong with the statements and commits to come, in order. -/
  faults : List (Option Fault)
  /-- The statements and commits so far, with what was filled in. -/
  trace : List (String × List String)

namespace DatabaseError

/-- The states of a database that is starting or busy. -/
def startingStates : List String := ["57P03", "53300"]

/-- Whether a connection may succeed a moment later. -/
def isStarting : DatabaseError → Bool
  | reported (some code) _ => startingStates.contains code
  | _ => false

end DatabaseError

namespace Database

/-- An empty database without a connection to it. -/
def fresh (refusals : List (Option DatabaseError)) (faults : List (Option Fault)) : Database :=
  ⟨Store.empty, false, refusals, faults, []⟩

/-- A database to which there is no way. -/
def unreachable : Database :=
  fresh (List.replicate 4 (some .connectionLost)) []

/-- How often a connection is tried while the database is starting, before that takes too long. -/
def connectionAttempts : Nat := 11

/-- Tries to connect a number of times while the database is starting. -/
def connect : Nat → Action Database DatabaseError Unit
  | 0 => .fail .poolTimedOut
  | attempts + 1 => fun database =>
    let later := { database with refusals := database.refusals.tail }
    match database.refusals.head?.join with
    | none => ⟨.ok (), { later with connected := true }, []⟩
    | some cause => if cause.isStarting then connect attempts later else ⟨.error cause, later, []⟩

/-- Sees to it that there is a connection. -/
def ensureConnected : Action Database DatabaseError Unit := fun database =>
  if database.connected then ⟨.ok (), database, []⟩ else connect connectionAttempts database

/-- The database after a statement or commit has been sent, and the fault that it meets. -/
def send (database : Database) (label : String) (arguments : List String) :
    Database × Option Fault :=
  let fault := database.faults.head?.join
  let connected := !fault.any fun fault => fault.cause == .connectionLost
  ({ database with
      connected, faults := database.faults.tail, trace := database.trace ++ [(label, arguments)] },
    fault)

/-- What comes of a statement on some tables when it meets a fault or none. -/
def outcome {Answer : Type} (tables : Store) (statement : Statement Answer) :
    Option Fault → Store × Except DatabaseError Answer
  | none =>
    match statement.run tables with
    | .ok (tables, answer) => (tables, .ok answer)
    | .error cause => (tables, .error cause)
  | some fault =>
    match statement.run tables with
    | .ok (changed, _) => (if fault.takesEffect then changed else tables, .error fault.cause)
    | .error _ => (tables, .error fault.cause)

/-- Executes a statement at once for good. -/
def execute {Answer : Type} (statement : Statement Answer) :
    Action Database DatabaseError Answer := do
  ensureConnected
  fun database =>
    let (sent, fault) := database.send statement.label statement.arguments
    let (tables, answer) := outcome database.tables statement fault
    ⟨answer, { sent with tables }, []⟩

/-- Executes a statement in a transaction: on a copy of the tables, which it gives back. -/
def executeWithin {Answer : Type} (copy : Store) (statement : Statement Answer) :
    Action Database DatabaseError (Store × Answer) := fun database =>
  let (sent, fault) := database.send statement.label statement.arguments
  let (changed, answer) := outcome copy statement fault
  ⟨answer.map fun answer => (changed, answer), sent, []⟩

/-- Begins a transaction: gives a copy of the tables. -/
def begin : Action Database DatabaseError Store := do
  ensureConnected
  fun database => ⟨.ok database.tables, database, []⟩

/-- Ends a transaction: puts the copy in the place of the tables. -/
def commit (copy : Store) : Action Database DatabaseError Unit := fun database =>
  let (sent, fault) := database.send "commit" []
  match fault with
  | none => ⟨.ok (), { sent with tables := copy }, []⟩
  | some fault =>
    ⟨.error fault.cause, if fault.takesEffect then { sent with tables := copy } else sent, []⟩

end Database

end Telemetry
