import Telemetry.Proofs.Store.MemoryCalls

/-!
# What a history of calls leaves behind

Calls take effect one after another, whoever makes them, so the calls of any number of clients are one list
of calls in the order in which they take effect. A store in memory is at all times what the updates of the
accepted calls make of the store it started with: nothing is lost, nothing counts twice, and no total
wraps.
-/

namespace Telemetry

namespace Backend

variable {World : Type} (backend : Backend World)

/-- The calls of a history that were accepted, in order. -/
def accepted (world : World) (calls : List StorageCall) : List StorageCall :=
  ((calls.zip (backend.performAll world calls).2).filter fun step => step.2.toBool).map Prod.fst

@[simp]
theorem accepted_nil (world : World) : backend.accepted world [] = [] := rfl

theorem accepted_cons (world : World) (call : StorageCall) (calls : List StorageCall) :
    backend.accepted world (call :: calls) =
      (if (backend.perform call world).result.toBool then [call] else []) ++
        backend.accepted (backend.perform call world).world calls := by
  unfold accepted
  rw [performAll]
  cases (backend.perform call world).result <;> simp [Except.toBool]

theorem performAll_cons_world (world : World) (call : StorageCall) (calls : List StorageCall) :
    (backend.performAll world (call :: calls)).1 =
      (backend.performAll (backend.perform call world).world calls).1 := rfl

theorem accepted_append (world : World) (earlier later : List StorageCall) :
    backend.accepted world (earlier ++ later) =
      backend.accepted world earlier ++
        backend.accepted (backend.performAll world earlier).1 later := by
  induction earlier generalizing world with
  | nil => rfl
  | cons call calls inductionHypothesis =>
    rw [List.cons_append, accepted_cons, inductionHypothesis, accepted_cons, performAll_cons_world,
      List.append_assoc]

/-- The updates of the accepted calls of a history, in order. -/
def log (world : World) (calls : List StorageCall) : List (String × Value) :=
  (backend.accepted world calls).flatMap StorageCall.updates

theorem log_append (world : World) (earlier later : List StorageCall) :
    backend.log world (earlier ++ later) =
      backend.log world earlier ++ backend.log (backend.performAll world earlier).1 later := by
  simp [log, accepted_append]

end Backend

namespace MemoryStorage

/-- Every call is one step of the replay of the log: an accepted one by its updates, a refused one by
none. -/
theorem applyAll_log_single (storage : MemoryStorage) (call : StorageCall) :
    storage.store.applyAll (backend.log storage [call]) =
      .ok (backend.perform call storage).world.store := by
  rw [Backend.log, Backend.accepted_cons]
  cases answered : (backend.perform call storage).result with
  | error cause =>
    rw [perform_world_of_error answered]
    rfl
  | ok answer =>
    simpa [Except.toBool] using (applyAll_of_perform_eq_ok answered).1

/-- A store in memory is the replay of its log. -/
theorem applyAll_log (storage : MemoryStorage) (calls : List StorageCall) :
    storage.store.applyAll (backend.log storage calls) =
      .ok (backend.performAll storage calls).1.store := by
  induction calls generalizing storage with
  | nil => rfl
  | cons call calls inductionHypothesis =>
    have split := backend.log_append storage [call] calls
    rw [List.singleton_append] at split
    rw [split, Store.applyAll_append, applyAll_log_single, Backend.performAll_cons_world]
    exact inductionHypothesis (backend.perform call storage).world

/-- An increment is answered by the new total, which is the exact sum; it is refused when the sum is out of
range, and only then. -/
theorem updateCounter_answer (storage : MemoryStorage) (name : String) (delta : Count) :
    let sum := (storage.store.total name).toInt + delta.toInt
    let answered := (backend.perform (.updateCounter name delta) storage).result
    (∀ answer, answered = .ok answer →
      ∃ total : Count, answer = .total total ∧ total.toInt = sum) ∧
    ((∃ cause, answered = .error cause) ↔ ¬Count.Fits sum) := by
  intro sum answered
  constructor
  · intro answer accepted
    obtain ⟨applied, sameAnswer⟩ := applyAll_of_perform_eq_ok accepted
    refine ⟨_, sameAnswer, ?_⟩
    rw [Store.total_applyAll name applied]
    simp [sum, StorageCall.updates, Store.increment_counter_self]
  · have refusal := @Store.apply_counter_eq_error_iff storage.store name delta
    constructor
    · rintro ⟨cause, refused⟩
      obtain ⟨reason, refused, _⟩ := perform_eq_error_iff.1 refused
      exact (refusal.1 refused).1
    · intro outside
      exact ⟨_, perform_eq_error_iff.2 ⟨_, refusal.2 ⟨outside, rfl⟩, rfl⟩⟩

/-- A call that is refused or only looks at the store leaves no trace in it or in the log. -/
theorem perform_of_idle {storage : MemoryStorage} {call : StorageCall}
    (idle : (∃ cause, (backend.perform call storage).result = .error cause) ∨ call.isRead = true) :
    (backend.perform call storage).world = storage ∧ backend.log storage [call] = [] := by
  rw [Backend.log, Backend.accepted_cons]
  rcases idle with ⟨cause, refused⟩ | reads
  · constructor
    · exact perform_world_of_error refused
    · rw [refused]
      rfl
  · constructor
    · rw [perform_world, if_pos reads]
    · split <;> simp [StorageCall.updates_of_isRead reads]

/-- A call touches the metrics that it names alone. -/
theorem get?_perform_of_forall_ne {storage : MemoryStorage} {call : StorageCall} {kind : Kind}
    {name : String}
    (others : ∀ update ∈ call.updates, ¬(update.1 = name ∧ update.2.kind = kind)) :
    (backend.perform call storage).world.store.get? kind name = storage.store.get? kind name := by
  cases answered : (backend.perform call storage).result with
  | error cause => rw [perform_world_of_error answered]
  | ok answer => exact Store.get?_applyAll_of_forall_ne (applyAll_of_perform_eq_ok answered).1 others

/-- What a storage in memory holds after any history of calls, and what the next call does: totals are
exact sums of the increments that were accepted, a metric is there if it was there before or an accepted
call named it, a gauge has its last accepted value, an accepted increment is answered by its running total,
refused calls and reads leave no trace, and a call touches the metrics that it names alone. -/
theorem accounting (start : MemoryStorage) (calls : List StorageCall) :
    let reached := (backend.performAll start calls).1
    let log := backend.log start calls
    (∀ name, (reached.store.total name).toInt =
        (start.store.total name).toInt + Store.increments name log ∧
      Count.Fits ((start.store.total name).toInt + Store.increments name log)) ∧
    (∀ kind name, (reached.store.get? kind name).isSome ↔
      (start.store.get? kind name).isSome ∨
        ∃ update ∈ log, update.1 = name ∧ update.2.kind = kind) ∧
    (∀ name, reached.store.gauges.get? name =
      (Store.lastReading? name log).or (start.store.gauges.get? name)) ∧
    (∀ name delta, let sum := (start.store.total name).toInt + Store.increments name log + delta.toInt
      let answered := (backend.perform (.updateCounter name delta) reached).result
      (∀ answer, answered = .ok answer →
        ∃ total : Count, answer = .total total ∧ total.toInt = sum) ∧
      ((∃ cause, answered = .error cause) ↔ ¬Count.Fits sum)) ∧
    (∀ call, (∃ cause, (backend.perform call reached).result = .error cause) ∨
        call.isRead = true →
      (backend.perform call reached).world = reached ∧ backend.log start (calls ++ [call]) = log) ∧
    (∀ call kind name, (∀ update ∈ call.updates, ¬(update.1 = name ∧ update.2.kind = kind)) →
      (backend.perform call reached).world.store.get? kind name = reached.store.get? kind name) := by
  intro reached log
  have replay : start.store.applyAll log = .ok reached.store := applyAll_log start calls
  have totals := fun name => Store.total_applyAll name replay
  refine ⟨?_, ?_, ?_, ?_, ?_, ?_⟩
  · intro name
    exact ⟨totals name, totals name ▸ Count.toInt_fits _⟩
  · intro kind name
    exact Store.isSome_get?_applyAll kind name replay
  · intro name
    exact Store.get?_gauges_applyAll name replay
  · intro name delta
    rw [← totals name]
    exact updateCounter_answer reached name delta
  · intro call idle
    obtain ⟨unchanged, nothingLogged⟩ := perform_of_idle idle
    constructor
    · exact unchanged
    · rw [Backend.log_append, nothingLogged, List.append_nil]
  · intro call kind name others
    exact get?_perform_of_forall_ne others

end MemoryStorage

end Telemetry
