import Telemetry.Agent.Error
import Telemetry.Agent.Queue
import Telemetry.Log
import Telemetry.Metric.Basic

/-!
# Workers

A pool of workers takes batches from a queue and sends them. A worker takes and sends until a take comes
to nothing, which happens when the pool is cancelled, or when the queue is empty and nobody is left who
might offer. Then it drains the queue: it goes on with what is there and stops when there is nothing.

`Pool.step` is one step of one worker, or one thing that happens to the pool from outside. A step that
cannot happen gives nothing, and one that can says what it did. So every interleaving of the workers among
each other and with the outside is a list of steps.
-/

namespace Telemetry

/-- What a worker is in the middle of. -/
inductive Worker
  | taking (waiting : Taking)
  /-- The batch is on its way; a worker that drains the queue goes on draining. -/
  | sending (batch : Batch) (draining : Bool)
  | stopped
  | aborted
  deriving DecidableEq, Repr

namespace Worker

/-- A worker before its first step. -/
def fresh : Worker := taking .lock

/-- Whether a worker does nothing any more. -/
def isOver : Worker → Bool
  | stopped | aborted => true
  | _ => false

/-- A worker that is made to stop. -/
def abort : Worker → Worker
  | stopped => stopped
  | _ => aborted

/-- A worker that goes on after a batch. -/
def next (draining : Bool) : Worker :=
  taking (if draining then .ifAny else .lock)

/-- A worker whose take has come so far. -/
def afterTake (waiting : Taking) : TakeProgress Batch → Worker
  | .locked => taking .item
  | .ended (some batch) => sending batch (waiting == .ifAny)
  | .ended none => if waiting == .ifAny then stopped else taking .ifAny

end Worker

/-- A queue and the workers who take from it. -/
structure Pool where
  queue : Queue Batch
  cancelled : Bool
  workers : List Worker
  deriving DecidableEq, Repr

/-- One thing that happens to a pool. -/
inductive PoolEvent
  /-- An offer from outside gets on, which may heed the cancellation or not. -/
  | offer (batch : Batch) (heeds : Bool)
  /-- A worker's take gets on. -/
  | poll (worker : Nat)
  /-- A worker's batch has been delivered, or not. -/
  | sent (worker : Nat) (failure : Option SendError)
  | cancel
  /-- Nobody is left who might offer. -/
  | endOffers
  /-- The workers are over, and nobody is left who might take. -/
  | endTakes
  /-- The workers are made to stop wherever they are. -/
  | abort
  deriving DecidableEq, Repr

/-- What a step of a pool does. -/
inductive PoolEffect
  | offered (batch : Batch) (outcome : Offered)
  /-- A worker begins to send a batch. -/
  | sending (worker : Nat) (batch : Batch)
  | log (line : LogLine)
  deriving DecidableEq, Repr

namespace Pool

/-- A pool without workers and with an empty queue. -/
def start (takers : Nat) : Pool :=
  ⟨Queue.forTakers takers, false, []⟩

/-- The pool with a number of workers, one at least. -/
def hire (pool : Pool) (size : Nat) : Pool :=
  { pool with workers := List.replicate (max 1 size) .fresh }

/-- The line about a batch that could not be delivered. -/
def failedLine (worker : Nat) (batch : Batch) (cause : SendError) : LogLine :=
  .error ("Worker " ++ toString worker ++ " failed to deliver batch of " ++ toString batch.length ++
    " metrics: " ++ cause.message)

/-- What a worker begins to send after a step. -/
def begun (worker : Nat) : Worker → List PoolEffect
  | .sending batch _ => [.sending worker batch]
  | _ => []

/-- The pool after a worker's take has come so far. -/
def advance (pool : Pool) (worker : Nat) (waiting : Taking)
    (progress : TakeProgress Batch × Queue Batch) : Pool × List PoolEffect :=
  let after := Worker.afterTake waiting progress.1
  ({ pool with queue := progress.2, workers := pool.workers.set worker after }, begun worker after)

/-- The pool with nobody left who might offer. -/
def endOffers (pool : Pool) : Pool :=
  { pool with queue := { pool.queue with offersEnded := true } }

/-- The pool with its workers made to stop wherever they are. -/
def abort (pool : Pool) : Pool :=
  { pool with queue := pool.queue.release, workers := pool.workers.map Worker.abort }

/-- The pool with some of its workers made to stop wherever they are. If one of them has the lock, it gives it
back. -/
def stop (pool : Pool) (stops : Nat → Bool) : Pool :=
  { pool with
    queue := if pool.queue.lock.any stops then pool.queue.release else pool.queue
    workers := pool.workers.mapIdx fun number worker => if stops number then worker.abort else worker }

/-- One step. -/
def step (pool : Pool) : PoolEvent → Option (Pool × List PoolEffect)
  | .offer batch heeds =>
    if pool.queue.offersEnded then none
    else
      (pool.queue.offer? (heeds && pool.cancelled) batch).map fun (outcome, queue) =>
        ({ pool with queue }, [.offered batch outcome])
  | .poll worker =>
    match pool.workers[worker]? with
    | some (.taking waiting) =>
      (pool.queue.take? pool.cancelled worker waiting).map (pool.advance worker waiting)
    | _ => none
  | .sent worker failure =>
    match pool.workers[worker]? with
    | some (.sending batch draining) =>
      some ({ pool with workers := pool.workers.set worker (.next draining) },
        (failure.map fun cause => PoolEffect.log (failedLine worker batch cause)).toList)
    | _ => none
  | .cancel => some ({ pool with cancelled := true }, [])
  | .endOffers => some (pool.endOffers, [])
  | .endTakes =>
    if !pool.workers.isEmpty && pool.workers.all Worker.isOver && !pool.queue.takesEnded then
      some ({ pool with queue := { pool.queue with takesEnded := true } }, [])
    else
      none
  | .abort => some (pool.abort, [])

/-- Steps one after another, and all that they did, in order. -/
def run (pool : Pool) : List PoolEvent → Option (Pool × List PoolEffect)
  | [] => some (pool, [])
  | event :: events =>
    (pool.step event).bind fun (next, effects) =>
      (run next events).map fun (final, later) => (final, effects ++ later)

/-- How many workers are not over. -/
def size (pool : Pool) : Nat :=
  (pool.workers.filter fun worker => !worker.isOver).length

/-! ## What happens of itself -/

/-- The steps that the workers may take by themselves. -/
def ownEvents (pool : Pool) : List PoolEvent :=
  (List.range pool.workers.length).map .poll ++ [.endTakes]

/-- One step that the workers take by themselves, if there is one. -/
def ownStep? (pool : Pool) : Option (Pool × List PoolEffect) :=
  pool.ownEvents.findSome? pool.step

end Pool

end Telemetry
