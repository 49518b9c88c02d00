import Telemetry.Agent.Basic
import Telemetry.Agent.Sampler
import Telemetry.Agent.Settings

/-!
# The agent's clock

`Agent.step` leaves open when things happen. Here an agent has a clock and does what is due: its own steps
at once and in a fixed order, and its ticks when their time has come. Its parts do one thing after another, so
none is running when the time for shutting down is up. What lies outside, samples and deliveries and the
signal to shut down, is reported by `feed`.
-/

namespace Telemetry

/-- A moment that comes again and again. -/
structure Ticker where
  period : Milliseconds
  due : Milliseconds
  deriving DecidableEq, Repr

namespace Ticker

/-- How late a moment may be and still count as on time. -/
def tolerance : Milliseconds := 5

/-- The ticker after its moment has come at `now`. The next moment is one period after this one was due
or, if this one was late, one period after `now`. -/
def after (ticker : Ticker) (now : Milliseconds) : Ticker :=
  { ticker with due := (if ticker.due + tolerance < now then now else ticker.due) + ticker.period }

end Ticker

/-- An agent and its clock. -/
structure Clockwork where
  agent : Agent
  now : Milliseconds
  /-- When the samplers take their next samples. -/
  sampling : List Ticker
  /-- When the assembler makes its next batch. -/
  reporting : Ticker
  /-- When shutting down has taken too long. -/
  deadline : Option Milliseconds

namespace Clockwork

/-- An agent before its first step, with samplers and their periods. The first samples are due at once and
the first batch after one interval. -/
def start (workers : Nat) (reportInterval shutdownTimeout : Milliseconds)
    (samplers : List (SamplerTask × Milliseconds)) : Clockwork where
  agent := Agent.start workers (samplers.map Prod.fst) shutdownTimeout
  now := 0
  sampling := samplers.map fun (_, period) => ⟨period, 0⟩
  reporting := ⟨reportInterval, reportInterval⟩
  deadline := none

/-- An agent before its first step, with the queue that can be made for its workers. -/
def start? (overflow : Overflow) (workers : Nat) (reportInterval shutdownTimeout : Milliseconds)
    (samplers : List (SamplerTask × Milliseconds)) : Option Clockwork :=
  (Queue.create? overflow workers).map fun queue =>
    let clockwork := start workers reportInterval shutdownTimeout samplers
    { clockwork with agent.pool.queue := queue }

/-- The agent that settings describe, with the built-in samplers. -/
def ofSettings? (overflow : Overflow) (settings : AgentSettings) : Option Clockwork :=
  start? overflow settings.concurrency settings.reportInterval settings.shutdownTimeout
    (Sampler.builtIn.map fun sampler =>
      (⟨sampler.name, sampler.countsPolls, .waiting⟩, settings.pollInterval))

/-- The steps that the parts may take by themselves, first things first. -/
def ownEvents (clockwork : Clockwork) : List AgentEvent :=
  let agent := clockwork.agent
  (List.range agent.pool.workers.length).map .poll ++ [.endTakes, .offer, .stopAssembler] ++
    (List.range agent.samplers.length).map .stopSampler ++ [.allOver]

/-- The parts that may do something because its time has come. -/
def dueEvents (clockwork : Clockwork) : List AgentEvent :=
  ((clockwork.sampling.zipIdx.filter fun (ticker, _) => ticker.due ≤ clockwork.now).map
      fun (_, sampler) => AgentEvent.tick sampler) ++
    (if clockwork.reporting.due ≤ clockwork.now then [.assemble] else []) ++
    (if clockwork.deadline.any (· ≤ clockwork.now) then [.timeUp []] else [])

/-- The clockwork after an event that has happened: a ticker whose moment has come goes on, and a deadline
is set at shutdown. -/
def rewind (clockwork : Clockwork) : AgentEvent → Clockwork
  | .tick sampler =>
    { clockwork with
      sampling := clockwork.sampling.modify sampler fun ticker => ticker.after clockwork.now }
  | .assemble => { clockwork with reporting := clockwork.reporting.after clockwork.now }
  | .shutdown =>
    { clockwork with deadline := some (clockwork.now + clockwork.agent.shutdownTimeout) }
  | _ => clockwork

/-- The clockwork after an event, if the event can happen, and what it does. -/
def feed (clockwork : Clockwork) (event : AgentEvent) : Option (Clockwork × List AgentEffect) :=
  (clockwork.agent.step event).map fun (agent, effects) =>
    ({ clockwork.rewind event with agent }, effects)

/-- Tells the agent to shut down. If that may take no time at all, the time is up before any part has had
its turn. -/
def shutDown (clockwork : Clockwork) : Option (Clockwork × List AgentEffect) :=
  (clockwork.feed .shutdown).map fun (stopping, effects) =>
    if stopping.agent.shutdownTimeout = 0 then
      let (final, more) := (stopping.feed (.timeUp [])).getD (stopping, [])
      (final, effects ++ more)
    else
      (stopping, effects)

/-- One step that the agent takes by itself, if there is one. -/
def ownStep? (clockwork : Clockwork) : Option (Clockwork × List AgentEffect) :=
  (clockwork.ownEvents ++ clockwork.dueEvents).findSome? clockwork.feed

/-- Whether an agent waits for a moment of its own. -/
def awaits (clockwork : Clockwork) (event : AgentEvent) : Bool :=
  (clockwork.agent.step event).isSome

/-- The next moment at which the agent does something by itself. -/
def nextDue? (clockwork : Clockwork) : Option Milliseconds :=
  let samples :=
    (clockwork.sampling.zipIdx.filter fun (_, sampler) => clockwork.awaits (.tick sampler)).map
      fun (ticker, _) => ticker.due
  let report := if clockwork.awaits .assemble then [clockwork.reporting.due] else []
  let deadline := if clockwork.awaits (.timeUp []) then clockwork.deadline.toList else []
  (samples ++ report ++ deadline).min?

end Clockwork

end Telemetry
