import Mathlib.Data.List.Basic
import Telemetry.Proofs.Agent.Queue
import Telemetry.Proofs.Run

/-!
# What a pool passes on

Every batch that is queued is passed on once, in the order in which it came, or is still in the queue. A
worker stops only when it finds the queue empty, and it looks only after the pool is cancelled or nobody is
left who might offer. So what is queued before the pool is cancelled has been passed on by the time the
workers have stopped.
-/

namespace Telemetry

/-- The batch that has come into the queue, if one has. -/
def PoolEffect.queued? : PoolEffect → Option Batch
  | offered batch .queued => some batch
  | _ => none

/-- The batch that a worker begins to send, if one does. -/
def PoolEffect.passed? : PoolEffect → Option Batch
  | sending _ batch => some batch
  | _ => none

/-- Whether a worker's batch is no longer on its way. -/
def PoolEvent.isReturn : PoolEvent → Bool
  | sent _ _ => true
  | _ => false

namespace Worker

/-- Whether a worker only takes what is there. -/
def isDraining : Worker → Bool
  | taking .ifAny => true
  | sending _ draining => draining
  | _ => false

/-- Whether a worker has a batch on its way, or may have had one when it was made to stop. -/
def isBusy : Worker → Bool
  | sending _ _ | aborted => true
  | _ => false

@[simp]
theorem isDraining_taking {waiting : Taking} : (taking waiting).isDraining = (waiting == .ifAny) := by
  cases waiting <;> rfl

@[simp]
theorem isDraining_sending {batch : Batch} {draining : Bool} :
    (sending batch draining).isDraining = draining := rfl

@[simp]
theorem isDraining_next {draining : Bool} : (next draining).isDraining = draining := by
  cases draining <;> rfl

@[simp]
theorem isDraining_abort (worker : Worker) : worker.abort.isDraining = false := by
  cases worker <;> rfl

@[simp]
theorem abort_eq_stopped_iff {worker : Worker} : worker.abort = stopped ↔ worker = stopped := by
  cases worker <;> simp [abort]

@[simp]
theorem next_ne_stopped {draining : Bool} : next draining ≠ stopped := nofun

@[simp]
theorem isBusy_taking {waiting : Taking} : (taking waiting).isBusy = false := rfl

@[simp]
theorem isBusy_sending {batch : Batch} {draining : Bool} : (sending batch draining).isBusy = true := rfl

@[simp]
theorem isBusy_next {draining : Bool} : (next draining).isBusy = false := rfl

@[simp]
theorem isBusy_afterTake (waiting : Taking) (progress : TakeProgress Batch) :
    (afterTake waiting progress).isBusy = progress.item?.isSome := by
  rcases progress with _ | (_ | batch)
  · rfl
  · cases waiting <;> rfl
  · rfl

theorem isBusy_abort {worker : Worker} (busy : worker.isBusy) : worker.abort.isBusy := by
  cases worker <;> simp_all [abort, isBusy]

/-- A take stops its worker only if the worker drains the queue and there is nothing to take. -/
theorem afterTake_eq_stopped_iff {waiting : Taking} {progress : TakeProgress Batch} :
    afterTake waiting progress = stopped ↔ waiting = .ifAny ∧ progress = .ended none := by
  rcases progress with _ | (_ | batch)
  · simp [afterTake]
  · cases waiting <;> simp [afterTake]
  · simp [afterTake]

end Worker

namespace Pool

/-- The batches that have come into the queue, in order. -/
def queued (effects : List PoolEffect) : List Batch :=
  effects.filterMap PoolEffect.queued?

/-- The batches that workers have begun to send, in order. -/
def passed (effects : List PoolEffect) : List Batch :=
  effects.filterMap PoolEffect.passed?

variable {pool next reached : Pool} {event : PoolEvent} {events : List PoolEvent}
  {effects earlier later : List PoolEffect} {batch : Batch} {worker size : Nat}

@[simp]
theorem queued_nil : queued [] = [] := rfl

@[simp]
theorem passed_nil : passed [] = [] := rfl

@[simp]
theorem queued_append : queued (earlier ++ later) = queued earlier ++ queued later :=
  List.filterMap_append

@[simp]
theorem passed_append : passed (earlier ++ later) = passed earlier ++ passed later :=
  List.filterMap_append

theorem mem_queued : batch ∈ queued effects ↔ .offered batch .queued ∈ effects := by
  rw [queued, List.mem_filterMap]
  constructor
  · rintro ⟨effect, present, isQueued⟩
    rcases effect with ⟨batch, _ | _ | _⟩ | _ | _
    · cases isQueued
      exact present
    all_goals cases isQueued
  · intro present
    exact ⟨_, present, rfl⟩

theorem mem_passed : batch ∈ passed effects ↔ ∃ worker, .sending worker batch ∈ effects := by
  rw [passed, List.mem_filterMap]
  constructor
  · rintro ⟨effect, present, isPassed⟩
    cases effect with
    | sending worker batch =>
      cases isPassed
      exact ⟨worker, present⟩
    | offered _ _ => cases isPassed
    | log _ => cases isPassed
  · rintro ⟨worker, present⟩
    exact ⟨_, present, rfl⟩

@[simp]
theorem queued_begun (after : Worker) : queued (begun worker after) = [] := by
  cases after <;> rfl

@[simp]
theorem passed_begun_afterTake (waiting : Taking) (progress : TakeProgress Batch) :
    passed (begun worker (.afterTake waiting progress)) = progress.item?.toList := by
  rcases progress with _ | (_ | batch)
  · rfl
  · cases waiting <;> rfl
  · rfl

@[simp]
theorem queue_hire (pool : Pool) (size : Nat) : (pool.hire size).queue = pool.queue := rfl

/-! ## What the steps are -/

theorem step_offer {heeds : Bool} (stepped : pool.step (.offer batch heeds) = some (next, effects)) :
    pool.queue.offersEnded = false ∧ ∃ outcome queue,
      pool.queue.offer? (heeds && pool.cancelled) batch = some (outcome, queue) ∧
        next = { pool with queue } ∧ effects = [.offered batch outcome] := by
  simp only [step] at stepped
  split at stepped
  · cases stepped
  · next lasts =>
    obtain ⟨⟨outcome, queue⟩, came, same⟩ := Option.map_eq_some_iff.1 stepped
    cases same
    exact ⟨by simpa using lasts, outcome, queue, came, rfl, rfl⟩

theorem step_poll (stepped : pool.step (.poll worker) = some (next, effects)) :
    ∃ waiting progress queue, pool.workers[worker]? = some (.taking waiting) ∧
      pool.queue.take? pool.cancelled worker waiting = some (progress, queue) ∧
      next = ⟨queue, pool.cancelled, pool.workers.set worker (.afterTake waiting progress)⟩ ∧
      effects = begun worker (.afterTake waiting progress) := by
  simp only [step] at stepped
  split at stepped
  · next waiting held =>
    obtain ⟨⟨progress, queue⟩, taken, same⟩ := Option.map_eq_some_iff.1 stepped
    cases same
    exact ⟨waiting, progress, queue, held, taken, rfl, rfl⟩
  · cases stepped

theorem step_sent {failure : Option SendError}
    (stepped : pool.step (.sent worker failure) = some (next, effects)) :
    ∃ batch draining, pool.workers[worker]? = some (.sending batch draining) ∧
      next = { pool with workers := pool.workers.set worker (.next draining) } ∧
      effects = (failure.map fun cause => PoolEffect.log (failedLine worker batch cause)).toList := by
  simp only [step] at stepped
  split at stepped
  · next batch draining held =>
    cases stepped
    exact ⟨batch, draining, held, rfl, rfl⟩
  · cases stepped

theorem step_endTakes (stepped : pool.step .endTakes = some (next, effects)) :
    next = { pool with queue := { pool.queue with takesEnded := true } } ∧ effects = [] := by
  simp only [step] at stepped
  split at stepped
  · cases stepped
    exact ⟨rfl, rfl⟩
  · cases stepped

/-! ## Nothing is lost -/

/-- What a step passes on is what was in front of the queue. -/
theorem content_step (stepped : pool.step event = some (next, effects)) :
    pool.queue.content ++ queued effects = passed effects ++ next.queue.content := by
  cases event with
  | offer batch heeds =>
    obtain ⟨_, outcome, queue, came, rfl, rfl⟩ := step_offer stepped
    rcases Queue.offer?_eq_some_iff.1 came with ⟨_, rfl, rfl⟩ | ⟨_, _, rfl, rfl⟩ | ⟨_, _, _, rfl, rfl⟩
    · exact List.append_nil _
    · exact List.append_nil _
    · rfl
  | poll worker =>
    obtain ⟨waiting, progress, queue, _, taken, rfl, rfl⟩ := step_poll stepped
    rw [queued_begun, passed_begun_afterTake, List.append_nil]
    exact Queue.content_of_take? taken
  | sent worker failure =>
    obtain ⟨batch, draining, _, rfl, rfl⟩ := step_sent stepped
    cases failure with
    | none => exact List.append_nil _
    | some cause => exact List.append_nil _
  | endTakes =>
    obtain ⟨rfl, rfl⟩ := step_endTakes stepped
    exact List.append_nil _
  | cancel | endOffers | abort =>
    cases stepped
    exact List.append_nil _

theorem content_run (ran : Run step pool events effects reached) :
    pool.queue.content ++ queued effects = passed effects ++ reached.queue.content := by
  induction ran with
  | nil pool => exact List.append_nil _
  | cons stepped _ inductionHypothesis =>
    rw [queued_append, passed_append, ← List.append_assoc, content_step stepped, List.append_assoc,
      inductionHypothesis, List.append_assoc]

/-! ## How many batches are on their way -/

/-- How many workers have a batch on its way, or may have had one. -/
def busy (pool : Pool) : Nat :=
  pool.workers.countP Worker.isBusy

theorem busy_le (pool : Pool) : pool.busy ≤ pool.workers.length :=
  List.countP_le_length

/-- The number of busy workers after one of them has changed. -/
theorem countP_set {workers : List Worker} {before : Worker} (held : workers[worker]? = some before)
    (after : Worker) :
    (workers.set worker after).countP Worker.isBusy + before.isBusy.toNat =
      workers.countP Worker.isBusy + after.isBusy.toNat := by
  have counted (first : Worker) (others : List Worker) :
      (first :: others).countP Worker.isBusy = others.countP Worker.isBusy + first.isBusy.toNat := by
    rw [List.countP_cons]
    cases first.isBusy <;> rfl
  induction workers generalizing worker with
  | nil => cases held
  | cons first others inductionHypothesis =>
    cases worker with
    | zero =>
      cases held
      simp only [List.set_cons_zero, counted]
      omega
    | succ worker =>
      have others := inductionHypothesis (by simpa using held)
      simp only [List.set_cons_succ, counted]
      omega

/-- A batch is passed on by a worker who was idle, and who is busy until the batch is delivered or not. -/
theorem passed_step_le (stepped : pool.step event = some (next, effects)) :
    (passed effects).length + pool.busy ≤ event.isReturn.toNat + next.busy := by
  cases event with
  | offer batch heeds =>
    obtain ⟨_, outcome, queue, _, rfl, rfl⟩ := step_offer stepped
    exact Nat.le_refl (0 + pool.busy)
  | poll worker =>
    obtain ⟨waiting, progress, queue, held, _, rfl, rfl⟩ := step_poll stepped
    have counted := countP_set held (.afterTake waiting progress)
    have taken : progress.item?.toList.length = progress.item?.isSome.toNat := by
      cases progress.item? <;> rfl
    rw [Worker.isBusy_taking, Worker.isBusy_afterTake] at counted
    rw [passed_begun_afterTake, taken]
    simp only [busy, Bool.toNat_false] at counted ⊢
    omega
  | sent worker failure =>
    obtain ⟨batch, draining, held, rfl, rfl⟩ := step_sent stepped
    have counted := countP_set held (.next draining)
    have nothing : passed (failure.map fun cause => PoolEffect.log (failedLine worker batch cause)).toList =
        [] := by
      cases failure <;> rfl
    rw [Worker.isBusy_sending, Worker.isBusy_next] at counted
    rw [nothing]
    simp only [busy, PoolEvent.isReturn, Bool.toNat_false, Bool.toNat_true, List.length_nil] at counted ⊢
    omega
  | endTakes =>
    obtain ⟨rfl, rfl⟩ := step_endTakes stepped
    exact Nat.le_refl (0 + pool.busy)
  | abort =>
    cases stepped
    have aborted : pool.busy ≤ pool.abort.busy := by
      rw [busy, busy, abort, List.countP_map]
      exact List.countP_mono_left fun worker _ => Worker.isBusy_abort
    exact Nat.add_le_add_left aborted 0
  | cancel | endOffers =>
    cases stepped
    exact Nat.le_refl (0 + pool.busy)

theorem length_workers_step (stepped : pool.step event = some (next, effects)) :
    next.workers.length = pool.workers.length := by
  cases event with
  | offer batch heeds =>
    obtain ⟨_, _, _, _, rfl, _⟩ := step_offer stepped
    rfl
  | poll worker =>
    obtain ⟨_, _, _, _, _, rfl, _⟩ := step_poll stepped
    exact List.length_set
  | sent worker failure =>
    obtain ⟨_, _, _, rfl, _⟩ := step_sent stepped
    exact List.length_set
  | endTakes =>
    obtain ⟨rfl, _⟩ := step_endTakes stepped
    rfl
  | abort =>
    cases stepped
    exact List.length_map _
  | cancel | endOffers =>
    cases stepped
    rfl

/-- There are no more batches on their way than there are workers. -/
theorem passed_run_le (ran : Run step pool events effects reached) :
    (passed effects).length + pool.busy ≤ events.countP PoolEvent.isReturn + reached.busy ∧
      reached.workers.length = pool.workers.length := by
  induction ran with
  | nil pool => exact ⟨Nat.le_refl (0 + pool.busy), rfl⟩
  | cons stepped _ inductionHypothesis =>
    obtain ⟨fewer, sameWorkers⟩ := inductionHypothesis
    have first := passed_step_le stepped
    refine ⟨?_, sameWorkers.trans (length_workers_step stepped)⟩
    rw [passed_append, List.length_append, List.countP_cons]
    cases returned : PoolEvent.isReturn _ with
    | false =>
      rw [returned, Bool.toNat_false] at first
      simp only [Bool.false_eq_true, if_false]
      omega
    | true =>
      rw [returned, Bool.toNat_true] at first
      rw [if_pos rfl]
      omega

/-! ## When a worker stops -/

/-- A worker drains the queue only after the pool is cancelled or nobody is left who might offer. If the pool
is not cancelled, then nothing comes after a worker that has stopped. -/
structure Orderly (pool : Pool) : Prop where
  drains : ∀ worker ∈ pool.workers, worker.isDraining → pool.cancelled = true ∨ pool.queue.offersEnded = true
  stops : .stopped ∈ pool.workers →
    pool.cancelled = true ∨ pool.queue.offersEnded = true ∧ pool.queue.content = []

theorem orderly_hire (pool : Pool) (size : Nat) : (pool.hire size).Orderly where
  drains worker present := by
    cases List.eq_of_mem_replicate present
    nofun
  stops present := nomatch List.eq_of_mem_replicate present

theorem Orderly.afterOffer {batch : Batch} {heeds : Bool} (orderly : pool.Orderly)
    (stepped : pool.step (.offer batch heeds) = some (next, effects)) : next.Orderly := by
  obtain ⟨lasts, outcome, queue, came, rfl, rfl⟩ := step_offer stepped
  have sameEnd : queue.offersEnded = pool.queue.offersEnded := by
    rcases Queue.offer?_eq_some_iff.1 came with ⟨_, _, rfl⟩ | ⟨_, _, _, rfl⟩ | ⟨_, _, _, _, rfl⟩ <;> rfl
  constructor
  · intro worker present draining
    rw [sameEnd]
    exact orderly.drains worker present draining
  · intro present
    rcases orderly.stops present with isCancelled | ⟨ended, _⟩
    · exact .inl isCancelled
    · cases lasts.symm.trans ended

/-- A worker starts to drain when it sees the cancellation or the end of the offers, and stops when it drains
and finds nothing. -/
theorem Orderly.afterPoll (orderly : pool.Orderly)
    (stepped : pool.step (.poll worker) = some (next, effects)) : next.Orderly := by
  obtain ⟨waiting, progress, queue, held, taken, rfl, rfl⟩ := step_poll stepped
  have sameEnd := Queue.offersEnded_of_take? taken
  have present := List.mem_of_getElem? held
  have goesOn : waiting = .ifAny → pool.cancelled = true ∨ pool.queue.offersEnded = true := by
    rintro rfl
    exact orderly.drains _ present rfl
  constructor
  · intro other among draining
    rw [sameEnd]
    rcases List.mem_or_eq_of_mem_set among with among | rfl
    · exact orderly.drains other among draining
    · rcases Queue.take?_cases taken with ⟨item, _, _, _, rfl, _⟩ | ⟨_, why, rfl, _⟩ |
        ⟨isCancelled, _, _, _⟩ | ⟨_, rfl, _⟩
      · exact goesOn (by simpa [Worker.afterTake] using draining)
      · rcases why with isDraining | ⟨_, ended⟩
        · exact goesOn isDraining
        · exact .inr ended
      · exact .inl isCancelled
      · cases draining
  · intro among
    rw [sameEnd]
    rcases List.mem_or_eq_of_mem_set among with among | same
    · have left := Queue.content_of_take? taken
      refine (orderly.stops among).imp_right fun ⟨ended, content⟩ => ⟨ended, ?_⟩
      rw [content] at left
      exact (List.nil_eq_append_iff.1 left).2
    · obtain ⟨rfl, rfl⟩ := Worker.afterTake_eq_stopped_iff.1 same.symm
      exact (goesOn rfl).imp_right fun ended => ⟨ended, (Queue.content_eq_nil_of_take? taken).2⟩

theorem Orderly.afterSent {failure : Option SendError} (orderly : pool.Orderly)
    (stepped : pool.step (.sent worker failure) = some (next, effects)) : next.Orderly := by
  obtain ⟨batch, draining, held, rfl, rfl⟩ := step_sent stepped
  constructor
  · intro other among isDraining
    rcases List.mem_or_eq_of_mem_set among with among | rfl
    · exact orderly.drains other among isDraining
    · rw [Worker.isDraining_next] at isDraining
      exact orderly.drains _ (List.mem_of_getElem? held) isDraining
  · intro among
    rcases List.mem_or_eq_of_mem_set among with among | same
    · exact orderly.stops among
    · cases Worker.next_ne_stopped same.symm

theorem Orderly.step (orderly : pool.Orderly) (stepped : pool.step event = some (next, effects)) :
    next.Orderly := by
  cases event with
  | offer batch heeds => exact orderly.afterOffer stepped
  | poll worker => exact orderly.afterPoll stepped
  | sent worker failure => exact orderly.afterSent stepped
  | cancel =>
    cases stepped
    exact ⟨fun _ _ _ => .inl rfl, fun _ => .inl rfl⟩
  | endOffers =>
    cases stepped
    constructor
    · intro _ _ _
      exact .inr rfl
    · intro among
      exact (orderly.stops among).imp_right fun ⟨_, content⟩ => ⟨rfl, content⟩
  | endTakes =>
    obtain ⟨rfl, rfl⟩ := step_endTakes stepped
    exact ⟨orderly.drains, orderly.stops⟩
  | abort =>
    cases stepped
    constructor
    · intro other among draining
      obtain ⟨worker, _, rfl⟩ := List.mem_map.1 among
      rw [Worker.isDraining_abort] at draining
      cases draining
    · intro among
      obtain ⟨worker, present, same⟩ := List.mem_map.1 among
      rw [Worker.abort_eq_stopped_iff] at same
      exact orderly.stops (same ▸ present)

theorem Orderly.run (orderly : pool.Orderly) (ran : Run Pool.step pool events effects reached) :
    reached.Orderly := by
  induction ran with
  | nil => exact orderly
  | cons stepped _ inductionHypothesis => exact inductionHypothesis (orderly.step stepped)

/-- The worker who stops first finds the queue empty. -/
theorem content_of_stop (stepped : pool.step event = some (next, effects))
    (working : .stopped ∉ pool.workers) (stops : .stopped ∈ next.workers) : pool.queue.content = [] := by
  cases event with
  | offer batch heeds =>
    obtain ⟨_, _, _, _, rfl, _⟩ := step_offer stepped
    exact absurd stops working
  | poll worker =>
    obtain ⟨waiting, progress, queue, _, taken, rfl, _⟩ := step_poll stepped
    rcases List.mem_or_eq_of_mem_set stops with among | same
    · exact absurd among working
    · obtain ⟨rfl, rfl⟩ := Worker.afterTake_eq_stopped_iff.1 same.symm
      exact (Queue.content_eq_nil_of_take? taken).1
  | sent worker failure =>
    obtain ⟨_, _, _, rfl, _⟩ := step_sent stepped
    rcases List.mem_or_eq_of_mem_set stops with among | same
    · exact absurd among working
    · cases Worker.next_ne_stopped same.symm
  | endTakes =>
    obtain ⟨rfl, _⟩ := step_endTakes stepped
    exact absurd stops working
  | abort =>
    cases stepped
    obtain ⟨worker, present, same⟩ := List.mem_map.1 stops
    rw [Worker.abort_eq_stopped_iff] at same
    exact absurd (same ▸ present) working
  | cancel | endOffers =>
    cases stepped
    exact absurd stops working

/-- All that is in the queue is passed on before a worker stops. -/
theorem content_prefix_passed (ran : Run step pool events effects reached)
    (working : .stopped ∉ pool.workers) (stops : .stopped ∈ reached.workers) :
    pool.queue.content <+: passed effects := by
  induction ran with
  | nil => exact absurd stops working
  | @cons pool next _ _ _ first rest stepped _ inductionHypothesis =>
    by_cases stopping : .stopped ∈ next.workers
    · rw [content_of_stop stepped working stopping]
      exact List.nil_prefix
    · have inFront : pool.queue.content <+: passed first ++ next.queue.content := by
        rw [← content_step stepped]
        exact List.prefix_append _ _
      rw [passed_append]
      exact inFront.trans ((List.prefix_append_right_inj _).2 (inductionHypothesis stopping stops))

/-- The batches of a queue are passed on in order, each of them once, and no others. No more of them are on
their way at a time than the pool has workers. Those that are queued before the pool is cancelled have been
passed on when all workers have stopped. -/
theorem passes_what_is_queued (pool : Pool) (size : Nat)
    (ran : (pool.hire size).run events = some (reached, effects)) :
    pool.queue.content ++ queued effects = passed effects ++ reached.queue.content ∧
      (∀ batch, batch ∉ pool.queue.content → .offered batch .queued ∉ effects →
        ∀ worker, .sending worker batch ∉ effects) ∧
      (passed effects).length ≤ events.countP PoolEvent.isReturn + max 1 size ∧
      ((∀ worker ∈ reached.workers, worker = .stopped) →
        ∀ before after middle early, events = before ++ after →
          (pool.hire size).run before = some (middle, early) → before = [] ∨ middle.cancelled = false →
            pool.queue.content ++ queued early <+: passed effects) := by
  have steps := run_eq_some_iff.1 ran
  have inOrder := content_run steps
  obtain ⟨enough, sameWorkers⟩ := passed_run_le steps
  rw [queue_hire] at inOrder
  have staff : (pool.hire size).workers.length = max 1 size := List.length_replicate
  refine ⟨inOrder, ?_, ?_, ?_⟩
  · intro batch isNew notQueued worker passedOn
    have comes : batch ∈ pool.queue.content ++ queued effects := by
      rw [inOrder]
      exact List.mem_append_left _ (mem_passed.2 ⟨worker, passedOn⟩)
    rcases List.mem_append.1 comes with present | came
    · exact isNew present
    · exact notQueued (mem_queued.1 came)
  · have bound := busy_le reached
    omega
  · rintro allStopped before after middle early rfl begun inTime
    obtain ⟨_, _, late, rfl, started, rest⟩ := Run.append_iff.1 steps
    cases (run_eq_some_iff.2 started).symm.trans begun
    have sofar := content_run started
    rw [queue_hire] at sofar
    have someStopped : .stopped ∈ reached.workers := by
      have staffed : 0 < reached.workers.length := by omega
      obtain ⟨worker, present⟩ := List.exists_mem_of_length_pos staffed
      exact allStopped worker present ▸ present
    rw [sofar, passed_append, List.prefix_append_right_inj]
    by_cases stopping : .stopped ∈ middle.workers
    · have empty : middle.queue.content = [] := by
        rcases inTime with rfl | notCancelled
        · cases begun
          cases List.eq_of_mem_replicate stopping
        · rcases ((orderly_hire pool size).run started).stops stopping with isCancelled | ⟨_, content⟩
          · cases notCancelled.symm.trans isCancelled
          · exact content
      rw [empty]
      exact List.nil_prefix
    · exact content_prefix_passed rest stopping someStopped

/-- Two workers; the pool is cancelled when a batch is on its way and another one is in the queue. -/
theorem passes_what_is_queued_by_two :
    let first : Batch := [.counter "PollCount" ⟨1, by decide, by decide⟩]
    let second : Batch := [.counter "PollCount" ⟨2, by decide, by decide⟩]
    let third : Batch := [.counter "PollCount" ⟨3, by decide, by decide⟩]
    let pool := (Pool.start 2).hire 2
    let before : List PoolEvent := [.offer first true, .poll 0, .poll 0, .poll 1, .offer second true]
    let after : List PoolEvent :=
      [.cancel, .offer third true, .poll 1, .poll 1, .sent 0 (some .emptyBatch), .poll 0, .poll 0,
        .sent 1 none, .poll 1]
    ∃ reached effects, pool.run (before ++ after) = some (reached, effects) ∧
      (∀ worker ∈ reached.workers, worker = .stopped) ∧ [first, second] <+: passed effects ∧
      ∀ worker, .sending worker third ∉ effects := by
  intro first second third pool before after
  obtain ⟨⟨reached, effects⟩, ran⟩ := Option.isSome_iff_exists.1
    (show (pool.run (before ++ after)).isSome from rfl)
  obtain ⟨⟨middle, early⟩, begun⟩ := Option.isSome_iff_exists.1 (show (pool.run before).isSome from rfl)
  have atEnd : (pool.run (before ++ after)).all (fun done =>
      decide ((∀ worker ∈ done.1.workers, worker = .stopped) ∧ .offered third .queued ∉ done.2)) = true := by
    decide
  have inTime : (pool.run before).all (fun done =>
      decide (done.1.cancelled = false ∧ queued done.2 = [first, second])) = true := by
    decide
  rw [ran, Option.all_some, decide_eq_true_iff] at atEnd
  rw [begun, Option.all_some, decide_eq_true_iff] at inTime
  obtain ⟨_, refused, _, drained⟩ := passes_what_is_queued (Pool.start 2) 2 ran
  refine ⟨reached, effects, ran, atEnd.1, ?_, refused third (by simp [Pool.start, Queue.forTakers]) atEnd.2⟩
  rw [← inTime.2]
  exact drained atEnd.1 before after middle early rfl begun (.inr inTime.1)

end Pool

end Telemetry
