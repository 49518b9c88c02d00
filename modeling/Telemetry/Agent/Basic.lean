import Telemetry.Agent.Pool
import Telemetry.Agent.Readings
import Telemetry.Time

/-!
# The agent

An agent has samplers that record readings, an assembler that makes a batch of the readings at intervals
and offers it to a queue, and a pool of workers that send what is in the queue. When it is told to shut
down, it cancels the pool and waits until samplers, assembler and workers have stopped, or, if that takes
too long, asks them to stop; and then it sends one last batch with the readings as they are, if there are
any.

A part that is asked to stop does so where it waits. One that happens to be running goes on until it waits
the next time, and nobody waits for that: it may still record readings and begin to send what is in the
queue when the last batch is on its way.

`Agent.step` is one step of one of the parts. Any list of steps that can happen is a run of the agent, so
what is true of all runs does not depend on who is faster.
-/

namespace Telemetry

/-- What a sampler is in the middle of. -/
inductive SamplerPhase
  | waiting
  | sampling
  | stopped
  deriving DecidableEq, Repr

/-- A sampler at work. -/
structure SamplerTask where
  name : String
  countsPolls : Bool
  phase : SamplerPhase
  deriving DecidableEq, Repr

/-- What the assembler is in the middle of. -/
inductive AssemblerPhase
  | waiting
  | offering (batch : Batch)
  | stopped
  deriving DecidableEq, Repr

/-- How far the agent's life has come. -/
inductive Stage
  | running
  /-- The parts have been told to stop. -/
  | stopping
  /-- The last batch is on its way. -/
  | flushing (batch : Batch)
  | done
  deriving DecidableEq, Repr

/-- Whether the agent has turned to its last batch. -/
def Stage.isEnding : Stage → Bool
  | flushing _ | done => true
  | _ => false

/-- What runs by itself in an agent. -/
inductive Part
  | sampler (number : Nat)
  | assembler
  | worker (number : Nat)
  deriving DecidableEq, Repr

/-- The parts of an agent. -/
structure Agent where
  readings : Readings
  pool : Pool
  samplers : List SamplerTask
  assembler : AssemblerPhase
  stage : Stage
  /-- How long shutting down may take. -/
  shutdownTimeout : Milliseconds

/-- One thing that happens in an agent. -/
inductive AgentEvent
  /-- It is time for a sample. -/
  | tick (sampler : Nat)
  /-- A sample has been taken, or taking it has failed for a reason. -/
  | sampled (sampler : Nat) (sample : Except String Sample)
  | stopSampler (sampler : Nat)
  /-- It is time for a batch. -/
  | assemble
  /-- The offer of the assembler gets on. -/
  | offer
  | stopAssembler
  /-- A worker's take gets on. -/
  | poll (worker : Nat)
  /-- A worker's batch has been delivered, or not. -/
  | sent (worker : Nat) (failure : Option SendError)
  | endTakes
  | shutdown
  /-- All parts have stopped. -/
  | allOver
  /-- The parts have not stopped in time and are asked to. Some of them are `running`, the others wait. -/
  | timeUp (running : List Part)
  /-- A part that was running when it was asked to stop waits. -/
  | yield (part : Part)
  /-- The last batch has been delivered, or not. -/
  | flushed (failure : Option SendError)

/-- What a step of an agent does. -/
inductive AgentEffect
  /-- A sampler begins to take a sample. -/
  | sample (sampler : Nat)
  | pool (effect : PoolEffect)
  /-- The last batch begins its way. -/
  | flushing (batch : Batch)
  | log (line : LogLine)
  deriving DecidableEq, Repr

namespace SamplerTask

/-- Whether a sampler does nothing any more. -/
def isOver (task : SamplerTask) : Bool :=
  task.phase == .stopped

/-- A sampler in another phase. -/
def inPhase (task : SamplerTask) (phase : SamplerPhase) : SamplerTask :=
  { task with phase }

/-- The line about a sampler that has failed. -/
def failedLine (task : SamplerTask) (reason : String) : LogLine :=
  .error (task.name ++ " collector failed: " ++ reason)

end SamplerTask

namespace Agent

/-- An agent before its first step. -/
def start (workers : Nat) (samplers : List SamplerTask) (shutdownTimeout : Milliseconds) : Agent :=
  { readings := Readings.empty
    pool := (Pool.start workers).hire workers
    samplers
    assembler := .waiting
    stage := .running
    shutdownTimeout }

/-- An agent that has nothing but a pool of workers. -/
def ofPool (pool : Pool) : Agent :=
  { start 0 [] 0 with pool, assembler := .stopped }

/-- The agent with a sampler in another phase. -/
def setPhase (agent : Agent) (sampler : Nat) (phase : SamplerPhase) : Agent :=
  { agent with samplers := agent.samplers.modify sampler fun task => task.inPhase phase }

/-- The phase of a sampler. -/
def phase? (agent : Agent) (sampler : Nat) : Option SamplerPhase :=
  agent.samplers[sampler]?.map SamplerTask.phase

/-- A step of the pool. -/
def poolStep (agent : Agent) (event : PoolEvent) : Option (Agent × List AgentEffect) :=
  (agent.pool.step event).map fun (pool, effects) =>
    ({ agent with pool }, effects.map AgentEffect.pool)

/-- The agent without an assembler; nobody else makes offers. -/
def withoutAssembler (agent : Agent) : Agent :=
  { agent with assembler := .stopped, pool := agent.pool.endOffers }

/-- The line about a queue that nobody takes from. -/
def closedLine : LogLine :=
  .warning "Dispatch queue closed, stopping batch assembler"

/-- What becomes of the assembler after its offer. -/
def afterOffer (agent : Agent) (queue : Queue Batch) : Offered → Agent × List AgentEffect
  | .queued => ({ agent with assembler := .waiting, pool := { agent.pool with queue } }, [])
  | .cancelled => (agent.withoutAssembler, [])
  | .closed => (agent.withoutAssembler, [.log closedLine])

/-- Whether samplers, assembler and workers do nothing any more. -/
def allOver (agent : Agent) : Bool :=
  agent.samplers.all SamplerTask.isOver && agent.assembler == .stopped &&
    agent.pool.workers.all Worker.isOver

/-- Sends the last batch, if there is one. -/
def flush (agent : Agent) : Agent × List AgentEffect :=
  match agent.readings.finalBatch? with
  | none => ({ agent with stage := .done }, [])
  | some batch => ({ agent with stage := .flushing batch }, [.flushing batch])

/-- Whether a part does nothing any more. -/
def isOver (agent : Agent) : Part → Bool
  | .sampler number => agent.samplers[number]?.all SamplerTask.isOver
  | .assembler => agent.assembler == .stopped
  | .worker number => agent.pool.workers[number]?.all Worker.isOver

/-- The agent where some parts have stopped, wherever they were. -/
def stop (agent : Agent) (stops : Part → Bool) : Agent :=
  let pool := if stops .assembler then agent.pool.endOffers else agent.pool
  { agent with
    assembler := if stops .assembler then .stopped else agent.assembler
    samplers := agent.samplers.mapIdx fun number task =>
      if stops (.sampler number) then task.inPhase .stopped else task
    pool := pool.stop fun number => stops (.worker number) }

/-- The agent where all parts have stopped but those that are running. -/
def abort (agent : Agent) (running : List Part) : Agent :=
  agent.stop fun part => !running.contains part

/-- The line about parts that are asked to stop. -/
def timeUpLine (agent : Agent) : LogLine :=
  .warning ("Timed out after " ++ agent.shutdownTimeout.text ++
    " waiting for agent tasks, aborting them")

/-- The line about a last batch that could not be delivered. -/
def flushFailedLine (cause : SendError) : LogLine :=
  .error ("Failed to send final metrics: " ++ cause.message)

/-- One step; nothing if it cannot happen. -/
def step (agent : Agent) : AgentEvent → Option (Agent × List AgentEffect)
  | .tick sampler =>
    if agent.phase? sampler = some .waiting then
      some (agent.setPhase sampler .sampling, [.sample sampler])
    else
      none
  | .sampled sampler sample =>
    match agent.samplers[sampler]? with
    | some task =>
      if task.phase = .sampling then
        match sample with
        | .ok sample =>
          some ({ agent.setPhase sampler .waiting with
            readings := agent.readings.record sample task.countsPolls }, [])
        | .error reason => some (agent.setPhase sampler .stopped, [.log (task.failedLine reason)])
      else
        none
    | none => none
  | .stopSampler sampler =>
    if agent.pool.cancelled && agent.phase? sampler == some .waiting then
      some (agent.setPhase sampler .stopped, [])
    else
      none
  | .assemble =>
    if agent.assembler = .waiting then
      some ({ agent with assembler := .offering agent.readings.batch }, [])
    else
      none
  | .offer =>
    match agent.assembler with
    | .offering batch =>
      (agent.pool.queue.offer? agent.pool.cancelled batch).map fun (outcome, queue) =>
        agent.afterOffer queue outcome
    | _ => none
  | .stopAssembler =>
    if agent.pool.cancelled && agent.assembler == .waiting then some (agent.withoutAssembler, [])
    else none
  | .poll worker => agent.poolStep (.poll worker)
  | .sent worker failure => agent.poolStep (.sent worker failure)
  | .endTakes => agent.poolStep .endTakes
  | .shutdown =>
    if agent.stage = .running then
      some ({ agent with stage := .stopping, pool := { agent.pool with cancelled := true } }, [])
    else
      none
  | .allOver => if agent.stage = .stopping ∧ agent.allOver then some agent.flush else none
  | .timeUp running =>
    if agent.stage = .stopping then
      let (final, effects) := (agent.abort running).flush
      some (final, .log agent.timeUpLine :: effects)
    else
      none
  | .yield part =>
    if agent.stage.isEnding && !agent.isOver part then some (agent.stop (· == part), []) else none
  | .flushed failure =>
    match agent.stage with
    | .flushing _ =>
      some ({ agent with stage := .done },
        (failure.map fun cause => AgentEffect.log (flushFailedLine cause)).toList)
    | _ => none

/-- Steps one after another, and all that they did, in order. -/
def run (agent : Agent) : List AgentEvent → Option (Agent × List AgentEffect)
  | [] => some (agent, [])
  | event :: events =>
    (agent.step event).bind fun (next, effects) =>
      (run next events).map fun (final, later) => (final, effects ++ later)

end Agent

end Telemetry
