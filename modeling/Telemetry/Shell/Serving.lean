import Telemetry.Launch
import Telemetry.Shell.Files
import Telemetry.Shell.Network
import Telemetry.Shell.Report
import Std.Sync.CancellationToken

/-!
# A collector that serves

Each connection has a task of its own. What comes over it becomes an event of the collector, and all events
go through `Collector.step` one after another. The steps of a snapshot follow one another here with nothing in
between.
-/

namespace Telemetry.Shell

open Std.Async

/-- Carries a snapshot over to the machine, and reports a failure. -/
def carrySnapshot (reporter : Reporter) (before after : Disk) : Option String → IO Unit
  | none => return
  | some path => do
    try carryOver before after path
    catch cause =>
      let failure := StorageError.snapshot path (failureOf cause)
      reporter.report (.error ("Failed to write snapshot: " ++ failure.message))

/-- A collector at work. -/
structure Serving where
  collector : Std.Mutex Collector
  /-- Where the collector keeps its snapshot. -/
  storeFile : Option String
  reporter : Reporter
  /-- Tells the tasks that no request is waited for any more. -/
  stop : Std.CancellationToken

namespace Serving

/-- Carries the snapshot over to the machine. -/
def save (serving : Serving) (before after : Disk) : IO Unit :=
  carrySnapshot serving.reporter before after serving.storeFile

/-- Lets events happen, as far as they can, and gives the response if there is one. -/
def happen (serving : Serving) (events : List CollectorEvent) : IO (Option Response) := do
  let effects ← serving.collector.atomically do
    let collector ← get
    let (next, effects) := collector.follow events
    serving.save collector.storage.disk next.storage.disk
    set next
    return effects
  serving.reporter.reportAll (effects.filterMap CollectorEffect.line?)
  return effects.findSome? CollectorEffect.response?

/-- The collector as it is. -/
def current (serving : Serving) : IO Collector :=
  serving.collector.atomically get

/-- Receives more of a request. Between two requests this ends when the collector stops. -/
def receive (serving : Serving) (client : TCP.Socket.Client) (received : Bytes) :
    Async (Bytes × Bool) := do
  if received.isEmpty then
    Selectable.one #[
      .case (client.recvSelector portion) fun bytes =>
        return ((bytes.map ByteArray.toList).getD [], bytes.isNone),
      .case serving.stop.selector fun _ => return ([], true)]
  else
    receiveAtLeast client (received.length + Request.missing received) received.toByteArray

/-- Answers the requests of a connection until it comes to an end, and tells whether there was a fault. -/
partial def converse (serving : Serving) (connection : Nat) (client : TCP.Socket.Client)
    (received : Bytes) : Async (Option RequestFault) := do
  match Request.read received with
  | .malformed fault =>
    client.send Response.toFault.wire.toByteArray
    return some fault
  | .partly =>
    match ← serving.receive client received with
    | (bytes, false) => converse serving connection client bytes
    | (bytes, true) => return if bytes.isEmpty then none else some .cutOff
  | .whole request rest =>
    match ← serving.happen (Collector.requestEvents connection request) with
    | none => return none
    | some response =>
      client.send (response.asSent request).wire.toByteArray
      if request.keepsConnection then converse serving connection client rest else return none

/-- Attends to a connection from its beginning to its end. -/
def attend (serving : Serving) (connection : Nat) (client : TCP.Socket.Client) : Async Unit := do
  let fault ←
    try serving.converse connection client []
    catch _ => pure none
  discard <| serving.happen [.close connection fault]
  try client.shutdown
  catch _ => return

/-- The next connection; nothing when the collector stops. -/
def accept (serving : Serving) (server : TCP.Socket.Server) : Async (Option TCP.Socket.Client) :=
  Selectable.one #[
    .case server.acceptSelector fun client => return some client,
    .case serving.stop.selector fun _ => return none]

/-- Accepts connections until the collector stops. -/
partial def acceptAll (serving : Serving) (server : TCP.Socket.Server) : Async Unit := do
  let accepted ←
    try Except.ok <$> serving.accept server
    catch cause => pure (Except.error (failureOf cause))
  match accepted with
  | .ok none => return
  | .ok (some client) =>
    discard <| serving.happen [.accept none]
    background (serving.attend (← serving.current).accepted client)
    acceptAll serving server
  | .error cause =>
    discard <| serving.happen [.accept (some cause)]
    if (← serving.current).stage = .serving then acceptAll serving server else serving.stop.cancel

/-- Has the snapshot written at intervals until the collector stops. -/
partial def flushAll (serving : Serving) (period : Milliseconds) : Async Unit := do
  let due ← Selector.sleep ⟨(period : Int)⟩
  let goesOn ← Selectable.one #[
    .case due fun _ => return true,
    .case serving.stop.selector fun _ => return false]
  if goesOn then
    discard <| serving.happen (.flush :: Collector.snapshotEvents Collector.ownNumber)
    flushAll serving period

/-- How long it takes until the open connections are looked at again, in milliseconds. -/
def lookAgain : Milliseconds := 5

/-- Waits until the open connections have come to an end, or for so long. -/
partial def drain (serving : Serving) (remaining : Milliseconds) : Async Unit := do
  unless (← serving.current).connections.isEmpty || remaining = 0 do
    sleep ⟨(lookAgain : Int)⟩
    drain serving (remaining - lookAgain)

/-- Serves until a signal to stop comes or connections cannot be accepted any more, and then shuts down. -/
def serve (serving : Serving) (server : TCP.Socket.Server) (period : Milliseconds) : Async Unit := do
  background (serving.acceptAll server)
  if period ≠ 0 then background (serving.flushAll period)
  background (onStop serving.stop.cancel)
  await (← serving.stop.wait)
  discard <| serving.happen [.shutdown]
  let collector ← serving.current
  if collector.stage = .draining then serving.drain collector.shutdownTimeout
  discard <| serving.happen Collector.endingEvents

end Serving

/-- Where a collector keeps its snapshot. -/
def snapshotPath (settings : CollectorSettings) : Option String :=
  if settings.database.isNone then settings.storeFile else none

/-- Starts a collector, runs it until it has ended, and gives the exit code. -/
def runCollector : Async UInt32 := do
  let env ← environment
  let configuration := (Setting.filePath env).toList
  let settings := (CollectorSettings.ofEnvironment (← diskOf configuration) env).toOption
  let disk ← diskOf (configuration ++ (settings.map CollectorSettings.paths).getD [])
  let server ← listen ((settings.map CollectorSettings.address).getD "")
  let launch := Collector.launch (fun _ _ => server.map fun _ => ()) disk .unreachable env
  let reporter : Reporter := ⟨Collector.logSource, launch.logLevel⟩
  reporter.reportAll launch.log
  carrySnapshot reporter disk launch.disk (settings.bind snapshotPath)
  match launch.running, server with
  | some (settings, collector), .ok server =>
    let serving : Serving :=
      ⟨← Std.Mutex.new collector, snapshotPath settings, reporter, ← Std.CancellationToken.new⟩
    serving.serve server settings.storeInterval
    match (← serving.current).failure? with
    | none => return 0
    | some cause =>
      reporter.report (Collector.failedLine cause)
      return 1
  | _, _ => return 1

end Telemetry.Shell
