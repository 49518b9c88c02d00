import Telemetry.Agent.Basic
import Telemetry.Store.Batch

/-!
# An agent and the store of its collector

A batch that an agent sends is on its way until the agent hears what has become of it. In that time it may
reach the collector any number of times: not at all when it is lost, and again when it is sent again. Each
time it takes effect in the store as a whole, or is refused as a whole.

A worker that has been made to stop does not hear what becomes of the batch that it was sending. Such a batch
is cut off, and may reach the collector at any later time.

`Uplink.step` is one step of the agent or one arrival of a batch; nobody else writes to the store.
-/

namespace Telemetry

/-- The batch that a worker is sending. -/
def Worker.batch? : Worker → Option Batch
  | sending batch _ => some batch
  | _ => none

/-- The last batch, while it is on its way. -/
def Stage.batch? : Stage → Option Batch
  | flushing batch => some batch
  | _ => none

namespace Agent

/-- The batches that are on their way. -/
def onTheirWay (agent : Agent) : List Batch :=
  agent.pool.workers.filterMap Worker.batch? ++ agent.stage.batch?.toList

/-- The batches that some of the workers are sending. -/
def batchesOf (agent : Agent) (workers : Nat → Bool) : List Batch :=
  (agent.pool.workers.zipIdx.filter fun (_, number) => workers number).filterMap fun (worker, _) => worker.batch?

/-- The batches that an event cuts off. -/
def cutOffBy (agent : Agent) : AgentEvent → List Batch
  | .timeUp running => agent.batchesOf fun number => !running.contains (.worker number)
  | .yield (.worker number) => agent.batchesOf (· == number)
  | _ => []

end Agent

/-- An agent and the store that its batches go to. -/
structure Uplink where
  agent : Agent
  store : Store
  /-- The batches that have been cut off on their way. -/
  cutOff : List Batch

/-- One thing that happens to an agent or to the store that its batches go to. -/
inductive UplinkEvent
  | agent (event : AgentEvent)
  /-- A batch reaches the collector. -/
  | arrive (batch : Batch)

namespace Uplink

/-- An agent before its first step, and the store of its collector. -/
def start (agent : Agent) (store : Store) : Uplink :=
  ⟨agent, store, []⟩

/-- The store after a batch has reached it; a batch that is refused changes nothing. -/
def receive (store : Store) (batch : Batch) : Store :=
  match store.updateBatch batch with
  | .ok updated => updated
  | .error _ => store

/-- One step; nothing if it cannot happen. -/
def step (uplink : Uplink) : UplinkEvent → Option (Uplink × List AgentEffect)
  | .agent event =>
    (uplink.agent.step event).map fun (agent, effects) =>
      ({ uplink with agent, cutOff := uplink.cutOff ++ uplink.agent.cutOffBy event }, effects)
  | .arrive batch =>
    if batch ∈ uplink.agent.onTheirWay ++ uplink.cutOff then
      some ({ uplink with store := receive uplink.store batch }, [])
    else
      none

/-- Steps one after another, and all that they did, in order. -/
def run (uplink : Uplink) : List UplinkEvent → Option (Uplink × List AgentEffect)
  | [] => some (uplink, [])
  | event :: events =>
    (uplink.step event).bind fun (next, effects) =>
      (run next events).map fun (final, later) => (final, effects ++ later)

end Uplink

end Telemetry
