import Telemetry.Collector.Error
import Telemetry.Collector.Handler
import Telemetry.Collector.Settings
import Telemetry.Http.Connection
import Telemetry.Store.Choice
import Telemetry.Store.Saving

/-!
# The collector

A collector starts with its private key, then its storage, then the address that it listens at. While it
serves, it accepts connections and answers the requests that come over them. When it is told to shut down
it accepts no more, waits until the open connections have come to an end or that takes too long, and then
closes its storage. Connections that are open by then are told to stop, but nobody waits for them.

Connections have numbers. A request takes effect in one step. If every update writes the snapshot, an update
is not answered before its connection has gone through the steps of `Saving`, with those of other connections
in between. The other side may close a connection in the middle of that. Then nobody waits for the saving any
more and the next one may write, but a file that is being written or renamed is not called back: it is a
stray, and what it does to the disk it may do at any later time. Snapshots that are written at intervals, and
the one that is written when the storage is closed, go through the same steps. Over a database a request and
its response are one step.

`Collector.step` is one step, and any list of steps that can happen is a run.
-/

namespace Telemetry

/-- How far the life of a collector has come. -/
inductive CollectorStage
  | serving
  /-- No connection is accepted any more, and those that are open come to an end. -/
  | draining
  /-- Connections are not waited for any more, and those that are open are told to stop. There is a failure if
  connections could not be accepted. -/
  | stopped (failure : Option IoError)
  /-- The last snapshot is written. -/
  | closing (failure : Option IoError)
  /-- The storage is closed. -/
  | ended (failure : Option IoError)
  deriving DecidableEq, Repr

/-- Whether the last snapshot has been begun. -/
def CollectorStage.isLast : CollectorStage → Bool
  | closing _ | ended _ => true
  | _ => false

/-- What goes on of a saving that nobody waits for any more. -/
inductive Stray
  | writing
  | renaming
  deriving DecidableEq, Repr

/-- A collector that has started. -/
structure Collector where
  gate : Gate
  storage : Storage
  /-- How long open connections are waited for. -/
  shutdownTimeout : Milliseconds
  /-- How many connections have been accepted. They are numbered from one on. -/
  accepted : Nat := 0
  /-- The open connections. -/
  connections : List Nat := []
  /-- The responses of connections whose snapshot has to be written first. -/
  answers : List (Nat × Response) := []
  /-- Those who have the snapshot written. -/
  savers : List (Nat × SavingPhase) := []
  /-- The one of them who may write. -/
  writer : Option Nat := none
  /-- What connections have left behind that had broken off. -/
  strays : List (Nat × Stray) := []
  stage : CollectorStage := .serving

/-- One thing that happens to a collector. -/
inductive CollectorEvent
  /-- A connection is there, or accepting it has failed. -/
  | accept (failure : Option IoError)
  /-- A request has come over a connection. -/
  | request (connection : Nat) (request : Request)
  /-- A snapshot comes a step further. -/
  | goOn (saver : Nat)
  /-- A connection comes to an end between requests, in good order or because what came over it is no
  request. -/
  | close (connection : Nat) (fault : Option RequestFault)
  /-- The other side closes a connection before it has been answered. -/
  | hangUp (connection : Nat)
  /-- A connection stops that has been told to. -/
  | cutOff (connection : Nat)
  /-- A stray writes something, beside the snapshot or to the file that has got its path meanwhile. -/
  | strayWrite (connection : Nat) (inPlace : Bool) (content : Bytes)
  /-- A stray has written what it had to. -/
  | strayEnd (connection : Nat)
  /-- A stray gives what is beside the snapshot the path of the snapshot, if it can. -/
  | strayRename (connection : Nat)
  /-- It is time for a snapshot. -/
  | flush
  | shutdown
  /-- All connections have come to an end. -/
  | drained
  /-- The connections have not come to an end in time. -/
  | timeUp
  | closeStorage
  deriving DecidableEq, Repr

/-- What a step of a collector does. -/
inductive CollectorEffect
  /-- A request has taken effect, and this is to be its response. -/
  | handle (connection : Nat) (response : Response)
  | respond (connection : Nat) (response : Response)
  | log (line : LogLine)
  /-- A connection or a stray is not at its end when the storage is closed. -/
  | leave (connection : Nat)
  deriving DecidableEq, Repr

/-- What an effect adds to the log. -/
def CollectorEffect.line? : CollectorEffect → Option LogLine
  | log line => some line
  | _ => none

/-- The response that is sent. -/
def CollectorEffect.response? : CollectorEffect → Option Response
  | respond _ response => some response
  | _ => none

/-- What of a saving goes on when nobody waits for it any more. -/
def SavingPhase.stray? : SavingPhase → Option Stray
  | copied _ => some .writing
  | written => some .renaming
  | _ => none

namespace Collector

/-- Where to listen, as a host and a port. -/
def listenAddress (address : String) : Except IoError (String × Nat) :=
  match Text.cut ':' address.toList.reverse with
  | (_, none) => .error (.other "invalid socket address")
  | (port, some host) =>
    match boundedNatural? 0x10000 (String.ofList port.reverse) with
    | none => .error (.other "invalid port value")
    | some port =>
      if host.isEmpty then
        .error (.other "failed to lookup address information: Name or service not known")
      else
        .ok (String.ofList host.reverse, port)

/-- Opens the storage that the settings name. -/
def openStorage (settings : CollectorSettings) (disk : Disk) (database : Database) :
    Outcome Storage (Except StorageError Unit) :=
  match settings.database with
  | some address =>
    let outcome := DatabaseStorage.start address database
    ⟨outcome.result, .database outcome.world disk, outcome.log⟩
  | none =>
    let file := settings.storeFile.map fun path => SnapshotFile.mk path settings.storesEveryUpdate
    let outcome := MemoryStorage.start file settings.restore disk
    ⟨outcome.result, .memory outcome.world, outcome.log⟩

/-- Starts a collector. `listen` tells whether a host and a port can be listened at; if they cannot, the
storage is closed again. What is left is the disk. -/
def start (listen : String → Nat → Except IoError Unit) (settings : CollectorSettings) (disk : Disk)
    (database : Database) : Outcome Disk (Except CollectorError Collector) :=
  match PrivateKey.load disk settings.openingKey with
  | .error cause => ⟨.error (.key cause), disk, []⟩
  | .ok openingKey =>
    let opened := openStorage settings disk database
    match opened.result with
    | .error cause => ⟨.error (.storage cause), opened.world.disk, opened.log⟩
    | .ok _ =>
      match (listenAddress settings.address).bind fun (host, port) => listen host port with
      | .error cause =>
        let closed := (Storage.shutdown : Action Storage CollectorError Unit) opened.world
        ⟨.error (.bind settings.address cause), closed.world.disk, opened.log ++ closed.log⟩
      | .ok _ =>
        let collector : Collector :=
          { gate := ⟨⟨settings.key, openingKey⟩, settings.trustedSubnet⟩
            storage := opened.world
            shutdownTimeout := settings.shutdownTimeout }
        ⟨.ok collector, opened.world.disk, opened.log⟩

/-- Whether accepting may succeed next time: only this one connection is lost. -/
def concernsOneConnection : IoError → Bool
  | .connectionAborted | .connectionReset | .connectionRefused => true
  | _ => false

/-- What log lines amount to. -/
def logging (lines : List LogLine) : List CollectorEffect :=
  lines.map .log

/-- The line about connections that could not be accepted. -/
def acceptFailedLine (cause : IoError) : LogLine :=
  .error ("Server error: " ++ cause.message)

/-- The line about connections that have not come to an end in time. -/
def timeUpLine (collector : Collector) : LogLine :=
  .warning ("Timed out after " ++ collector.shutdownTimeout.text ++
    " waiting for connections, aborting them")

/-- The line about a connection over which something else than requests came. -/
def faultLine (fault : RequestFault) : LogLine :=
  .error ("Connection error: " ++ fault.message)

/-! ## Snapshots -/

/-- The number under which the storage itself has its snapshot written, at intervals and when it is closed. -/
def ownNumber : Nat := 0

/-- The writing of snapshots as it stands, if a snapshot is kept. -/
def saving? (collector : Collector) : Option Saving :=
  match collector.storage with
  | .memory ⟨store, some file, disk⟩ =>
    some ⟨store, disk, file.path, collector.writer, collector.savers⟩
  | _ => none

/-- The collector after the writing of snapshots has gone on. -/
def afterSaving (collector : Collector) (saving : Saving) : Collector :=
  { collector with
    storage := collector.storage.withDisk saving.disk
    writer := saving.writer
    savers := saving.clients }

/-- The collector with one more who has the snapshot written. -/
def beginSaving (collector : Collector) (saver : Nat) : Collector :=
  { collector with savers := (saver, .waiting) :: collector.savers }

/-- The lines about a snapshot that could not be written. -/
def savingLines (collector : Collector) (heading : String) (failure : Option IoError) : List LogLine :=
  match collector.storage.file?, failure with
  | some file, some cause => [.error (heading ++ ": " ++ (StorageError.snapshot file.path cause).message)]
  | _, _ => []

/-- What comes of a snapshot that has been written or has failed to be: a connection is answered, and the
storage is closed if it was the last one. -/
def afterSnapshot (collector : Collector) (saver : Nat) (failure : Option IoError) :
    Collector × List CollectorEffect :=
  if saver = ownNumber then
    match collector.stage with
    | .closing cause =>
      ({ collector with stage := .ended cause },
        logging (collector.savingLines "Failed to write final snapshot" failure))
    | _ => (collector, logging (collector.savingLines "Failed to write snapshot" failure))
  else
    ({ collector with answers := collector.answers.filter fun (other, _) => other != saver },
      logging (collector.savingLines "Failed to write snapshot" failure) ++
        ((collector.answers.lookup saver).map (.respond saver)).toList)

/-- What comes of a step that somebody has made in a phase. -/
def afterPhase (collector : Collector) (saver : Nat) : SavingPhase → Collector × List CollectorEffect
  | .released failure => collector.afterSnapshot saver failure
  | _ => (collector, [])

/-- A snapshot comes a step further. -/
def saveOn (collector : Collector) (saver : Nat) : Option (Collector × List CollectorEffect) :=
  collector.saving?.bind fun saving =>
    (saving.phase? saver).bind fun phase =>
      (saving.step (phase.next saver)).map fun (saved, _) =>
        (collector.afterSaving saved).afterPhase saver phase

/-- The collector after something has been done to its disk and the path of its snapshot. What cannot be done
leaves the disk as it was. -/
def touch (collector : Collector) (change : Disk → String → Except IoError Disk) : Collector :=
  match collector.storage.file? with
  | none => collector
  | some file =>
    match change collector.storage.disk file.path with
    | .error _ => collector
    | .ok disk => { collector with storage := collector.storage.withDisk disk }

/-! ## Connections -/

/-- The collector with one more connection. -/
def opened (collector : Collector) : Collector :=
  { collector with
    accepted := collector.accepted + 1
    connections := collector.connections ++ [collector.accepted + 1] }

/-- Whether a connection is open and waits for a request. -/
def isIdle (collector : Collector) (connection : Nat) : Bool :=
  collector.connections.contains connection && (collector.answers.lookup connection).isNone

/-- Whether a connection is open and has not been answered. -/
def isBusy (collector : Collector) (connection : Nat) : Bool :=
  collector.connections.contains connection && (collector.answers.lookup connection).isSome

/-- Answers a request, or has the snapshot written first if it was an update and every update does so. -/
def handle (collector : Collector) (connection : Nat) (request : Request) :
    Collector × List CollectorEffect :=
  let file := collector.storage.file?
  let (response, storage, lines) :=
    collector.gate.handle Storage.backend request (collector.storage.withFile none)
  let next := { collector with storage := storage.withFile file }
  let effects := logging lines ++ [.handle connection response]
  if file.any SnapshotFile.everyUpdate && collector.gate.updatesStore request response then
    ({ next with answers := (connection, response) :: next.answers }.beginSaving connection, effects)
  else
    (next, effects ++ [.respond connection response])

/-- The collector without a connection, whatever that is in the middle of. -/
def breakOff (collector : Collector) (connection : Nat) : Collector :=
  let stray := (collector.savers.lookup connection).bind SavingPhase.stray?
  { collector with
    connections := collector.connections.filter (· != connection)
    answers := collector.answers.filter fun (other, _) => other != connection
    savers := collector.savers.filter fun (other, _) => other != connection
    writer := if collector.writer = some connection then none else collector.writer
    strays := collector.strays ++ (stray.map fun stray => (connection, stray)).toList }

/-! ## Steps -/

/-- Whether connections are told to stop. -/
def hasStopped (collector : Collector) : Bool :=
  match collector.stage with
  | .serving | .draining => false
  | _ => true

/-- Whether the snapshot is written at intervals and is not being written. -/
def mayFlush (collector : Collector) : Bool :=
  !collector.stage.isLast && collector.storage.file?.any (fun file => !file.everyUpdate) &&
    (collector.savers.lookup ownNumber).isNone

/-- Closes the storage, with a last snapshot if one is kept. -/
def closeStorage (collector : Collector) (failure : Option IoError) :
    Collector × List CollectorEffect :=
  let left := (collector.connections ++ collector.strays.map Prod.fst).map .leave
  match collector.storage.file? with
  | some _ => ({ collector with stage := .closing failure }.beginSaving ownNumber, left)
  | none => ({ collector with stage := .ended failure }, left)

/-- One step; nothing if it cannot happen. -/
def step (collector : Collector) : CollectorEvent → Option (Collector × List CollectorEffect)
  | .accept failure =>
    if collector.stage = .serving then
      match failure with
      | none => some (collector.opened, [])
      | some cause =>
        if concernsOneConnection cause then some (collector, [])
        else some ({ collector with stage := .stopped failure }, [.log (acceptFailedLine cause)])
    else
      none
  | .request connection request =>
    if collector.isIdle connection then some (collector.handle connection request) else none
  | .goOn saver => collector.saveOn saver
  | .close connection fault =>
    if collector.isIdle connection then
      some (collector.breakOff connection, logging (fault.map faultLine).toList)
    else
      none
  | .hangUp connection =>
    if collector.isBusy connection then
      some (collector.breakOff connection, logging [faultLine .cutOff])
    else
      none
  | .cutOff connection =>
    if collector.hasStopped && collector.connections.contains connection then
      some (collector.breakOff connection, [])
    else
      none
  | .strayWrite connection inPlace content =>
    if (connection, Stray.writing) ∈ collector.strays then
      some (collector.touch fun disk path =>
        disk.write (if inPlace then path else Disk.sibling path) content, [])
    else
      none
  | .strayEnd connection =>
    if (connection, Stray.writing) ∈ collector.strays then
      some ({ collector with strays := collector.strays.erase (connection, .writing) }, [])
    else
      none
  | .strayRename connection =>
    if (connection, Stray.renaming) ∈ collector.strays then
      let next := collector.touch fun disk path => disk.rename (Disk.sibling path) path
      some ({ next with strays := next.strays.erase (connection, .renaming) }, [])
    else
      none
  | .flush =>
    if collector.mayFlush then some (collector.beginSaving ownNumber, []) else none
  | .shutdown =>
    if collector.stage = .serving then some ({ collector with stage := .draining }, []) else none
  | .drained =>
    if collector.stage = .draining ∧ collector.connections = [] then
      some ({ collector with stage := .stopped none }, [])
    else
      none
  | .timeUp =>
    if collector.stage = .draining ∧ collector.connections ≠ [] then
      some ({ collector with stage := .stopped none }, [.log collector.timeUpLine])
    else
      none
  | .closeStorage =>
    match collector.stage, collector.savers.lookup ownNumber with
    | .stopped failure, none => some (collector.closeStorage failure)
    | _, _ => none

/-- Steps one after another, and all that they did, in order. -/
def run (collector : Collector) : List CollectorEvent → Option (Collector × List CollectorEffect)
  | [] => some (collector, [])
  | event :: events =>
    (collector.step event).bind fun (next, effects) =>
      (run next events).map fun (final, later) => (final, effects ++ later)

end Collector

end Telemetry
