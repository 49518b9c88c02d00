import Telemetry.Agent.Clockwork
import Telemetry.Agent.ProcFiles
import Telemetry.Digest.Hmac
import Telemetry.Launch
import Telemetry.Number.Endian
import Telemetry.Shell.Files
import Telemetry.Shell.Network
import Telemetry.Shell.Report
import Std.Sync.Channel

/-!
# An agent at work

The clock of the agent is that of the machine. What it asks for is done beside it: samples are taken at
once, and each delivery has a task of its own, whose end comes back as an event.

A delivery is what `Sender.sendBatch` says. It is asked again after every answer that the collector has given,
with all answers up to then, and says each time which message comes next and after how long, or how it ends.
-/

namespace Telemetry.Shell

open Std.Async

/-- A delivery of which the first answers are known. The message that comes after them is kept, and ends it. -/
structure Delivery where
  answers : List (Except SendError (Status × Bytes))
  /-- How long the sender has waited since the last answer. -/
  waited : Milliseconds
  /-- The message that comes next, and how long after the last answer. -/
  next : Option (Milliseconds × Post)

namespace Delivery

/-- Gives the next answer that is known. -/
def exchange : Exchange Delivery := fun post delivery =>
  match delivery.answers with
  | answer :: answers => ⟨answer, ⟨answers, 0, none⟩, []⟩
  | [] => ⟨.error .badAddress, { delivery with next := some (delivery.waited, post) }, []⟩

/-- The delivery after some time. -/
def wait (delay : Milliseconds) (delivery : Delivery) : Delivery :=
  { delivery with waited := delivery.waited + delay }

end Delivery

/-- An agent at work. -/
structure Reporting where
  sender : Sender
  reporter : Reporter
  requestTimeout : Milliseconds
  /-- When the agent has started. -/
  started : Nat
  /-- What has happened outside of the agent. -/
  events : Std.Channel AgentEvent
  /-- Whether the workers have been made to stop. -/
  aborted : IO.Ref Bool
  /-- What the operating system told a sampler last, and when. -/
  told : Sampler → IO.Ref (ProcFiles × Nat)

namespace Reporting

instance : Inhabited AgentEvent := ⟨.shutdown⟩

/-- What the operating system tells now. -/
def procFiles : IO ProcFiles := do
  return {
    pages := ← textAt "/proc/self/statm"
    state := ← textAt "/proc/self/stat"
    transfers := ← textAt "/proc/self/io"
    uptime := ← textAt "/proc/uptime"
    memory := ← textAt "/proc/meminfo"
    processors := ← textAt "/proc/stat" }

/-- A value between zero and one that nobody can foretell. -/
def randomValue : IO Binary64 := do
  let places ← IO.rand 0 9999999999999999
  return Decimal.nearest ⟨false, places, -16⟩

/-- Numbers that nobody can foretell, all made from one secret. -/
def entropy : IO Entropy := do
  let secret ← IO.getRandomBytes 32
  return fun place => Endian.ofBig (Hmac.mac secret.toList (Endian.big 8 place))

/-- Takes a sample. -/
def takeSample (reporting : Reporting) (sampler : Sampler) : IO Sample := do
  let (before, earlier) ← (reporting.told sampler).get
  let files ← procFiles
  let now ← IO.monoMsNow
  (reporting.told sampler).set (files, now)
  return sampler.sample (ProcFiles.facts before files ((now - earlier) / 10) (← randomValue))

/-- Goes on with the delivery of a batch while that is `wanted`, after the answers that have come and the lines
that have been logged, and tells why it failed if it did. -/
partial def deliverAfter (reporting : Reporting) (wanted : IO Bool) (entropy : Entropy) (batch : Batch)
    (answers : List (Except SendError (Status × Bytes))) (logged : Nat) : Async (Option SendError) := do
  let outcome := reporting.sender.sendBatch Delivery.exchange Delivery.wait entropy batch ⟨answers, 0, none⟩
  reporting.reporter.reportAll (outcome.log.drop logged)
  match outcome.world.next, outcome.result with
  | none, .ok _ => return none
  | none, .error cause => return some cause
  | some (delay, post), _ =>
    if delay ≠ 0 then sleep ⟨(delay : Int)⟩
    if ← wanted then
      let answer ← within reporting.requestTimeout (.error .noAnswer) (exchange post)
      reporting.deliverAfter wanted entropy batch (answers ++ [answer]) outcome.log.length
    else
      return some .noAnswer

/-- Delivers a batch while that is `wanted`, and tells why it failed if it did. -/
def deliver (reporting : Reporting) (wanted : IO Bool) (batch : Batch) : Async (Option SendError) := do
  reporting.deliverAfter wanted (← entropy) batch [] 0

/-- Tells the agent that something has happened. -/
def tell (reporting : Reporting) (event : AgentEvent) : Async Unit := do
  discard <| reporting.events.send event

/-- Does something beside the agent, which ends with an event. -/
def beside (reporting : Reporting) (action : Async AgentEvent) : Async Unit :=
  background do
    reporting.tell (← action)

/-- Does what a step of the agent asks for. -/
def perform (reporting : Reporting) : AgentEffect → Async Unit
  | .sample number =>
    match Sampler.builtIn[number]? with
    | some sampler => do reporting.tell (.sampled number (.ok (← reporting.takeSample sampler)))
    | none => return
  | .pool (.sending worker batch) =>
    reporting.beside do
      return .sent worker (← reporting.deliver ((! ·) <$> reporting.aborted.get) batch)
  | .flushing batch => reporting.beside do return .flushed (← reporting.deliver (pure true) batch)
  | .log line | .pool (.log line) => reporting.reporter.report line
  | .pool (.offered ..) => return

/-- The time of the agent. -/
def now (reporting : Reporting) : IO Milliseconds := do
  return (← IO.monoMsNow) - reporting.started

/-- Waits for an event from outside, or until something is due. -/
def await (reporting : Reporting) (clockwork : Clockwork) : Async (Option AgentEvent) := do
  let event : Selectable (Option AgentEvent) :=
    .case reporting.events.recvSelector fun event => return some event
  match clockwork.nextDue? with
  | none => Selectable.one #[event]
  | some due =>
    let moment ← Selector.sleep ⟨((due - clockwork.now : Nat) : Int)⟩
    Selectable.one #[event, .case moment fun _ => return none]

/-- What the agent makes of an event from outside. -/
def react (clockwork : Clockwork) : AgentEvent → Option (Clockwork × List AgentEffect)
  | .shutdown => clockwork.shutDown
  | event => clockwork.feed event

/-- Does what a step of the agent asks for, and gives the agent after it. -/
def follow (reporting : Reporting) (next : Clockwork) (effects : List AgentEffect) : Async Clockwork := do
  if next.agent.pool.workers.contains .aborted then reporting.aborted.set true
  effects.forM reporting.perform
  return next

/-- Lets the agent do all that it does. -/
partial def live (reporting : Reporting) (clockwork : Clockwork) : Async Unit := do
  let clockwork := { clockwork with now := ← reporting.now }
  match clockwork.ownStep? with
  | some (next, effects) => live reporting (← reporting.follow next effects)
  | none =>
    if clockwork.agent.stage = .done then
      return
    else
      match (← reporting.await clockwork).bind (react clockwork) with
      | some (next, effects) => live reporting (← reporting.follow next effects)
      | none => live reporting clockwork

end Reporting

/-- The exit code of a program that has been stopped by a number that is too large. -/
def stoppedCode : UInt32 := 101

/-- Starts an agent, runs it until it has done everything, and gives the exit code. -/
def runAgent : Async UInt32 := do
  let env ← environment
  let disk ← diskOf (Setting.filePath env).toList
  let settings := AgentSettings.ofEnvironment disk env
  let paths := (Setting.filePath env).toList ++ (settings.toOption.map AgentSettings.paths).getD []
  let launch := Agent.launch (← diskOf paths) env
  let reporter : Reporter := ⟨Agent.logSource, launch.logLevel⟩
  reporter.reportAll launch.log
  match launch.running with
  | none => return 1
  | some (settings, sender) =>
    let started ← IO.monoMsNow
    let files ← Reporting.procFiles
    let toRuntime ← IO.mkRef (files, started)
    let toHost ← IO.mkRef (files, started)
    let reporting : Reporting :=
      { sender := { sender with origin := ← ownAddress }
        reporter
        requestTimeout := settings.requestTimeout
        started
        events := ← Std.Channel.new
        aborted := ← IO.mkRef false
        told := fun
          | .runtime => toRuntime
          | .host => toHost }
    match Clockwork.ofSettings? .wraps settings with
    | none => return stoppedCode
    | some clockwork =>
      background (onStop (reporting.tell .shutdown))
      reporting.live clockwork
      return 0

end Telemetry.Shell
