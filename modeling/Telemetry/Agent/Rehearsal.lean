import Telemetry.Agent.Clockwork
import Telemetry.Http.Status
import Telemetry.Metric.Wire

/-!
# Rehearsals

In a rehearsal an agent is played against a script. The script says how long each delivery takes and
whether it fails, and what the samplers read. Time stands still as long as there is something to do at the
present moment, and then goes on to the next moment at which there is.

Every step of a rehearsal is one of `Clockwork.feed`, so it shows one of the runs that an agent may have.
-/

namespace Telemetry

/-- What a script says about one delivery. -/
structure Cue where
  delay : Milliseconds := 0
  failure : Option SendError := none

/-- A delivery that has begun. -/
structure Delivery where
  /-- The worker who delivers; nobody in particular delivers the last batch. -/
  worker : Option Nat
  batch : Batch
  begun : Milliseconds
  due : Milliseconds
  failure : Option SendError
  ended : Option Milliseconds := none
  /-- The answer, if there was one. -/
  status : Option Status := none

/-- What becomes of a batch that is delivered: the answer, the world after it, and what is logged. -/
abbrev Recipient (World : Type) := Batch → World → Option Status × World × List LogLine

/-- The recipient that nobody hears of. -/
def Recipient.silent : Recipient Unit := fun _ _ => (none, (), [])

/-- An agent, what the script still says, and what has happened so far. -/
structure Rehearsal (World : Type) where
  clockwork : Clockwork
  /-- What is said about the deliveries to come; the last is said about all later ones. -/
  cues : List Cue
  /-- What each sampler reads next; the last is read from then on. -/
  samples : List (List (Except String Sample))
  world : World
  deliveries : List Delivery := []
  log : List LogLine := []

namespace Rehearsal

variable {World : Type}

/-- What a script says next, and the script after that. -/
def next {Entry : Type} (script : List Entry) (standard : Entry) : Entry × List Entry :=
  match script with
  | [] => (standard, [])
  | [last] => (last, [last])
  | entry :: later => (entry, later)

/-- The present moment. -/
def now (rehearsal : Rehearsal World) : Milliseconds :=
  rehearsal.clockwork.now

/-- The rehearsal at a later moment. -/
def moveTo (rehearsal : Rehearsal World) (now : Milliseconds) : Rehearsal World :=
  { rehearsal with clockwork := { rehearsal.clockwork with now } }

/-- The rehearsal of an agent that has not done anything yet. -/
def ofAgent (agent : Agent) (reportInterval : Milliseconds) (cues : List Cue) (world : World) :
    Rehearsal World where
  clockwork := { Clockwork.start 0 reportInterval 0 [] with agent }
  cues
  samples := []
  world

/-- The agent in another state. -/
def modifyAgent (rehearsal : Rehearsal World) (change : Agent → Agent) : Rehearsal World :=
  { rehearsal with
    clockwork := { rehearsal.clockwork with agent := change rehearsal.clockwork.agent } }

/-- The pool of workers. -/
def pool (rehearsal : Rehearsal World) : Pool :=
  rehearsal.clockwork.agent.pool

/-- The pool in another state. -/
def setPool (rehearsal : Rehearsal World) (pool : Pool) : Rehearsal World :=
  rehearsal.modifyAgent fun agent => { agent with pool }

/-- Begins a delivery. -/
def begin (rehearsal : Rehearsal World) (worker : Option Nat) (batch : Batch) : Rehearsal World :=
  let (cue, cues) := next rehearsal.cues {}
  let begun := rehearsal.now
  { rehearsal with
    cues
    deliveries := rehearsal.deliveries ++
      [{ worker, batch, begun, due := begun + cue.delay, failure := cue.failure }] }

/-- What an effect adds to the log. -/
def linesOf : AgentEffect → List LogLine
  | .log line | .pool (.log line) => [line]
  | _ => []

/-- Gives a sampler what the script has for it. -/
def giveSample (rehearsal : Rehearsal World) (sampler : Nat) : Rehearsal World :=
  let (sample, later) := next ((rehearsal.samples[sampler]?).getD []) (.ok [])
  match rehearsal.clockwork.feed (.sampled sampler sample) with
  | some (clockwork, effects) =>
    { rehearsal with
      clockwork
      samples := rehearsal.samples.set sampler later
      log := rehearsal.log ++ effects.flatMap linesOf }
  | none => rehearsal

/-- Does what one effect asks of the world outside. -/
def note (rehearsal : Rehearsal World) : AgentEffect → Rehearsal World
  | .sample sampler => rehearsal.giveSample sampler
  | .pool (.sending worker batch) => rehearsal.begin (some worker) batch
  | .flushing batch => rehearsal.begin none batch
  | effect => { rehearsal with log := rehearsal.log ++ linesOf effect }

/-- The rehearsal after a step of the clockwork. -/
def follow (rehearsal : Rehearsal World) :
    Option (Clockwork × List AgentEffect) → Option (Rehearsal World)
  | some (clockwork, effects) => some (effects.foldl note { rehearsal with clockwork })
  | none => none

/-- The rehearsal after an event from outside; nothing changes if it cannot happen. -/
def feed (rehearsal : Rehearsal World) (event : AgentEvent) : Rehearsal World :=
  (rehearsal.follow (rehearsal.clockwork.feed event)).getD rehearsal

/-- The rehearsal after an event that the pool alone has to do with. -/
def feedPool (rehearsal : Rehearsal World) (event : PoolEvent) : Rehearsal World :=
  let step := (rehearsal.clockwork.agent.poolStep event).map fun (agent, effects) =>
    ({ rehearsal.clockwork with agent }, effects)
  (rehearsal.follow step).getD rehearsal

/-- Tells the agent to shut down. -/
def shutDown (rehearsal : Rehearsal World) : Rehearsal World :=
  (rehearsal.follow rehearsal.clockwork.shutDown).getD rehearsal

/-- Whether a delivery goes on: it has not ended, and nobody has made its worker stop. -/
def goesOn (rehearsal : Rehearsal World) (delivery : Delivery) : Bool :=
  let agent := rehearsal.clockwork.agent
  delivery.ended.isNone &&
    match delivery.worker with
    | some worker => agent.pool.workers[worker]?.any (· != .aborted)
    | none => true

/-- Of two deliveries with their numbers, the one that ends sooner, or the first if both end at once. -/
def sooner (first second : Delivery × Nat) : Delivery × Nat :=
  if first.1.due ≤ second.1.due then first else second

/-- The delivery that ends next, and its number. -/
def nextDelivery? (rehearsal : Rehearsal World) : Option (Delivery × Nat) :=
  let pending := rehearsal.deliveries.zipIdx.filter fun entry => rehearsal.goesOn entry.1
  pending.foldl (fun first entry => first.merge sooner (some entry)) none

/-- Ends a delivery if its time has come. What has not failed reaches the recipient then. -/
def deliver? (rehearsal : Rehearsal World) (recipient : Recipient World) :
    Option (Rehearsal World) := do
  let (delivery, number) ← rehearsal.nextDelivery?
  if rehearsal.now < delivery.due then
    none
  else
    let (status, world, log) :=
      if delivery.failure.isNone then recipient delivery.batch rehearsal.world
      else (none, rehearsal.world, [])
    let ended := { delivery with ended := some rehearsal.now, status }
    let rehearsal :=
      { rehearsal with
        world
        deliveries := rehearsal.deliveries.set number ended
        log := rehearsal.log ++ log }
    return rehearsal.feed <|
      match delivery.worker with
      | some worker => .sent worker delivery.failure
      | none => .flushed delivery.failure

/-- One thing that can be done at the present moment. -/
def act? (rehearsal : Rehearsal World) (recipient : Recipient World) : Option (Rehearsal World) :=
  (rehearsal.follow rehearsal.clockwork.ownStep?).orElse fun _ => rehearsal.deliver? recipient

/-- The next moment at which there is something to do. -/
def nextDue? (rehearsal : Rehearsal World) : Option Milliseconds :=
  (rehearsal.clockwork.nextDue?.toList ++
    (rehearsal.nextDelivery?.map fun entry => entry.1.due).toList).min?

/-- Plays until all is done that can be done at the present moment and it `isEnough`, or until a limit of
time, or for so many moves. -/
def playFor (recipient : Recipient World) (isEnough : Rehearsal World → Bool)
    (limit : Option Milliseconds) : Nat → Rehearsal World → Rehearsal World
  | 0, rehearsal => rehearsal
  | moves + 1, rehearsal =>
    match rehearsal.act? recipient with
    | some rehearsal => playFor recipient isEnough limit moves rehearsal
    | none =>
      if isEnough rehearsal then rehearsal
      else
        match rehearsal.nextDue?, limit with
        | some due, none => playFor recipient isEnough limit moves (rehearsal.moveTo due)
        | some due, some latest =>
          if due ≤ latest then playFor recipient isEnough limit moves (rehearsal.moveTo due)
          else rehearsal.moveTo latest
        | none, some latest => rehearsal.moveTo latest
        | none, none => rehearsal

/-- After how many moves a rehearsal is broken off that would go on. -/
def mostMoves : Nat := 100000000

/-- Plays until all is done that can be done at the present moment and it `isEnough`, or until a limit of
time. -/
def play (recipient : Recipient World) (isEnough : Rehearsal World → Bool)
    (limit : Option Milliseconds) (rehearsal : Rehearsal World) : Rehearsal World :=
  rehearsal.playFor recipient isEnough limit mostMoves

/-- Lets some time pass. -/
def pass (recipient : Recipient World) (duration : Milliseconds) (rehearsal : Rehearsal World) :
    Rehearsal World :=
  rehearsal.play recipient (fun _ => false) (some (rehearsal.now + duration))

/-- An offer from outside to the queue, which waits for some time while there is no room. -/
def offer (recipient : Recipient World) (patience : Milliseconds) (batch : Batch)
    (rehearsal : Rehearsal World) : Option Offered × Rehearsal World :=
  let step (rehearsal : Rehearsal World) := rehearsal.pool.step (.offer batch false)
  let ready :=
    if (step rehearsal).isSome then rehearsal
    else rehearsal.play recipient (fun later => (step later).isSome) (some (rehearsal.now + patience))
  match step ready with
  | some (pool, [.offered _ outcome]) => (some outcome, ready.setPool pool)
  | _ => (none, ready)

/-- The deliveries in the order in which they began, and those that began at once in the order of their
texts. -/
def inOrder (rehearsal : Rehearsal World) : List Delivery :=
  rehearsal.deliveries.mergeSort fun first second =>
    first.begun < second.begun ||
      (first.begun == second.begun &&
        Record.batchText first.batch ≤ Record.batchText second.batch)

/-- Whether the agent has done everything. -/
def isDone (rehearsal : Rehearsal World) : Bool :=
  rehearsal.clockwork.agent.stage == .done

end Rehearsal

end Telemetry
