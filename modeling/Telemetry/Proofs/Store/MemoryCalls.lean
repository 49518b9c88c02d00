import Telemetry.Proofs.Disk
import Telemetry.Proofs.Store.Planning
import Telemetry.Store.Call
import Telemetry.Store.Memory

/-!
# What a call does to a storage in memory

A call has a meaning for the store alone: `Store.afterCall` says what the store is after it, or why the call
is refused. `perform_of_ok` and `perform_of_error` say that this is all there is to a storage in memory:
a refused call leaves everything as it was, the disk included, and writing a snapshot does not touch the
store.
-/

namespace Telemetry

namespace StorageCall

/-- Whether a call only looks at the store. -/
def isRead : StorageCall → Bool
  | ping | getGauge _ | getCounter _ | gaugeNames | counterNames => true
  | updateGauge _ _ | updateCounter _ _ | updateBatch _ => false

/-- The updates that a call asks for, in order; a record of an unknown type asks for none. -/
def updates : StorageCall → List (String × Value)
  | updateGauge name value => [(name, .gauge value)]
  | updateCounter name delta => [(name, .counter delta)]
  | updateBatch records => records.filterMap Record.asked?
  | _ => []

theorem updates_of_isRead {call : StorageCall} (reads : call.isRead = true) :
    call.updates = [] := by
  cases call with
  | updateGauge name value => cases reads
  | updateCounter name delta => cases reads
  | updateBatch records => cases reads
  | _ => rfl

end StorageCall

namespace Store

/-- The store after a call, or why the call is refused. -/
def afterCall (store : Store) : StorageCall → Except ValidationError Store
  | .updateGauge name value => store.setGauge name value
  | .updateCounter name delta => (store.addCounter name delta).map Prod.fst
  | .updateBatch records => store.updateBatch records
  | _ => .ok store

theorem updateBatch_eq_ok {store next : Store} {records : List Record}
    (updated : store.updateBatch records = .ok next) :
    (∀ record ∈ Batch.known records, record.Valid) ∧
      store.applyAll (records.filterMap Record.asked?) = .ok next := by
  unfold updateBatch at updated
  cases planned : Batch.plan records with
  | error cause => simp [planned, Except.bind] at updated
  | ok updates =>
    obtain ⟨allValid, sameUpdates⟩ := Batch.plan_eq_ok planned
    rw [planned] at updated
    exact ⟨allValid, sameUpdates ▸ updated⟩

theorem afterCall_of_isRead (store : Store) {call : StorageCall} (reads : call.isRead = true) :
    store.afterCall call = .ok store := by
  cases call with
  | updateGauge name value => cases reads
  | updateCounter name delta => cases reads
  | updateBatch records => cases reads
  | _ => rfl

/-- A call that is not refused applies its updates. -/
theorem applyAll_of_afterCall_eq_ok {store next : Store} {call : StorageCall}
    (called : store.afterCall call = .ok next) : store.applyAll call.updates = .ok next := by
  cases call with
  | updateGauge name value => exact applyAll_cons_eq_ok_iff.2 ⟨next, called, rfl⟩
  | updateCounter name delta => exact applyAll_cons_eq_ok_iff.2 ⟨next, called, rfl⟩
  | updateBatch records => exact (updateBatch_eq_ok called).2
  | ping => exact called
  | getGauge name => exact called
  | getCounter name => exact called
  | gaugeNames => exact called
  | counterNames => exact called

end Store

namespace Action

variable {World Cause Result Next : Type}

/-- An action whose result is only put in other terms. -/
theorem bind_pure_apply (action : Action World Cause Result) (convert : Result → Next)
    (world : World) :
    (action >>= fun result => pure (convert result)) world =
      ⟨(action world).result.map convert, (action world).world, (action world).log⟩ := by
  cases outcome : (action world).result with
  | ok result =>
    rw [bind_apply_ok outcome]
    simp [Except.map]
  | error cause =>
    rw [bind_apply_error outcome]
    rfl

theorem bind_bind {Last : Type} (action : Action World Cause Result)
    (next : Result → Action World Cause Next) (last : Next → Action World Cause Last) :
    (action >>= fun result => next result >>= last) = (action >>= next) >>= last := by
  funext world
  cases first : (action world).result with
  | error cause =>
    have failed : ((action >>= next) world).result = .error cause := by rw [bind_apply_error first]
    rw [bind_apply_error first, bind_apply_error failed, bind_apply_error first]
  | ok result =>
    cases second : (next result (action world).world).result with
    | error cause =>
      have failed : ((action >>= next) world).result = .error cause := by rw [bind_apply_ok first, second]
      rw [bind_apply_ok first, bind_apply_error second, bind_apply_error failed, bind_apply_ok first]
    | ok other =>
      have succeeded : ((action >>= next) world).result = .ok other := by rw [bind_apply_ok first, second]
      rw [bind_apply_ok first, bind_apply_ok second, bind_apply_ok succeeded, bind_apply_ok first,
        List.append_assoc]

/-- What is only put in other terms and succeeds has succeeded before. -/
theorem exists_of_bind_pure_eq_ok {Other : Type} {action : Action World Cause Result}
    {convert : Cause → Other} (put : Result → Next) {world : World} {next : Next}
    (done : ((action.mapCause convert >>= fun result => pure (put result)) world).result = .ok next) :
    ∃ result, (action world).result = .ok result ∧ put result = next ∧
      ((action.mapCause convert >>= fun result => pure (put result)) world).world = (action world).world := by
  rw [bind_pure_apply] at done ⊢
  cases outcome : (action world).result with
  | error cause =>
    simp only [mapCause, outcome] at done
    cases done
  | ok result =>
    simp only [mapCause, outcome] at done
    cases done
    exact ⟨result, rfl, rfl, rfl⟩

end Action

namespace MemoryStorage

/-! ## The snapshot after an update -/

@[simp]
theorem save_store (storage : MemoryStorage) : (save storage).world.store = storage.store := by
  unfold save
  cases storage.file <;> rfl

theorem saveReporting_world {Cause : Type} (heading : String) (storage : MemoryStorage) :
    (@saveReporting Cause heading storage).world = (save storage).world := by
  unfold saveReporting
  dsimp only
  split <;> rfl

@[simp]
theorem saveReporting_store {Cause : Type} (heading : String) (storage : MemoryStorage) :
    (@saveReporting Cause heading storage).world.store = storage.store := by
  rw [saveReporting_world, save_store]

theorem saveReporting_result {Cause : Type} (heading : String) (storage : MemoryStorage) :
    (@saveReporting Cause heading storage).result = .ok () := by
  unfold saveReporting
  dsimp only
  split <;> rfl

@[simp]
theorem afterUpdate_store (storage : MemoryStorage) :
    (afterUpdate storage).world.store = storage.store := by
  unfold afterUpdate
  split
  · exact saveReporting_store _ storage
  · rfl

@[simp]
theorem afterUpdate_result (storage : MemoryStorage) : (afterUpdate storage).result = .ok () := by
  unfold afterUpdate
  split
  · exact saveReporting_result _ storage
  · rfl

/-- An update writes the snapshot if every update does. -/
theorem afterUpdate_world (storage : MemoryStorage) :
    (afterUpdate storage).world =
      match storage.file with
      | none => storage
      | some file =>
        if file.everyUpdate then
          { storage with disk := (storage.disk.replace file.path storage.store.snapshotBytes).2 }
        else storage := by
  unfold afterUpdate
  cases kept : storage.file with
  | none => rfl
  | some file =>
    dsimp only [Option.any]
    split
    · rw [saveReporting_world, save, kept]
    · rfl

/-! ## Calls -/

/-- The storage after a change of its store: the one before when the change is refused. -/
def settle (storage : MemoryStorage) : Except ValidationError Store → MemoryStorage
  | .error _ => storage
  | .ok next => (afterUpdate { storage with store := next }).world

@[simp]
theorem settle_error (storage : MemoryStorage) (cause : ValidationError) :
    storage.settle (.error cause) = storage := rfl

@[simp]
theorem settle_ok_store (storage : MemoryStorage) (next : Store) :
    (storage.settle (.ok next)).store = next :=
  afterUpdate_store _

/-- After two changes the storage is as after the last of them, the snapshot on the disk included. -/
theorem settle_settle (storage : MemoryStorage) (earlier later : Store) :
    (storage.settle (.ok earlier)).settle (.ok later) = storage.settle (.ok later) := by
  obtain ⟨store, file, disk⟩ := storage
  unfold settle
  simp only [afterUpdate_world]
  cases file with
  | none => rfl
  | some file =>
    cases writes : file.everyUpdate with
    | false => simp [writes]
    | true => simp [writes, Disk.replace_replace]

theorem update_result {Result : Type} (change : Store → Except ValidationError (Store × Result))
    (storage : MemoryStorage) :
    (update change storage).result =
      ((change storage.store).map Prod.snd).mapError .validation := by
  unfold update
  split
  · next refused => simp [refused, Except.map]
  · next changed => simp [changed, Except.map]

theorem update_world {Result : Type} (change : Store → Except ValidationError (Store × Result))
    (storage : MemoryStorage) :
    (update change storage).world = storage.settle ((change storage.store).map Prod.fst) := by
  unfold update
  split
  · next refused => simp [refused, Except.map]
  · next changed => simp [changed, Except.map, settle]

theorem updateGauge_result (storage : MemoryStorage) (name : String) (value : Binary64) :
    (backend.updateGauge name value storage).result =
      ((storage.store.setGauge name value).map fun _ => ()).mapError .validation := by
  refine (update_result _ storage).trans ?_
  cases storage.store.setGauge name value <;> rfl

theorem updateGauge_world (storage : MemoryStorage) (name : String) (value : Binary64) :
    (backend.updateGauge name value storage).world =
      storage.settle (storage.store.setGauge name value) := by
  refine (update_world _ storage).trans ?_
  cases storage.store.setGauge name value <;> rfl

theorem updateCounter_result (storage : MemoryStorage) (name : String) (delta : Count) :
    (backend.updateCounter name delta storage).result =
      ((storage.store.addCounter name delta).map Prod.snd).mapError .validation :=
  update_result _ storage

theorem updateCounter_world (storage : MemoryStorage) (name : String) (delta : Count) :
    (backend.updateCounter name delta storage).world =
      storage.settle ((storage.store.addCounter name delta).map Prod.fst) :=
  update_world _ storage

theorem updateBatch_result (storage : MemoryStorage) (records : List Record) :
    (backend.updateBatch records storage).result =
      ((storage.store.updateBatch records).map fun _ => ()).mapError .validation := by
  refine (update_result _ storage).trans ?_
  cases storage.store.updateBatch records <;> rfl

theorem updateBatch_world (storage : MemoryStorage) (records : List Record) :
    (backend.updateBatch records storage).world =
      storage.settle (storage.store.updateBatch records) := by
  refine (update_world _ storage).trans ?_
  cases storage.store.updateBatch records <;> rfl

/-- The answer to a call on a store that leaves another one behind. -/
def answerOf (store next : Store) : StorageCall → StorageAnswer
  | .ping | .updateGauge _ _ | .updateBatch _ => .done
  | .updateCounter name _ => .total (next.total name)
  | .getGauge name => .gauge (store.gauges.get? name)
  | .getCounter name => .counter (store.counters.get? name)
  | .gaugeNames => .names store.gauges.names
  | .counterNames => .names store.counters.names

theorem perform_result (storage : MemoryStorage) (call : StorageCall) :
    (backend.perform call storage).result =
      ((storage.store.afterCall call).map fun next => answerOf storage.store next call).mapError
        .validation := by
  cases call with
  | updateGauge name value =>
    refine (congrArg Outcome.result (Action.bind_pure_apply _ _ storage)).trans ?_
    rw [updateGauge_result, Store.afterCall]
    cases storage.store.setGauge name value <;> rfl
  | updateCounter name delta =>
    refine (congrArg Outcome.result (Action.bind_pure_apply _ _ storage)).trans ?_
    rw [updateCounter_result, Store.afterCall]
    cases added : storage.store.addCounter name delta with
    | error cause => rfl
    | ok result =>
      obtain ⟨next, total⟩ := result
      obtain ⟨_, rfl⟩ := Store.addCounter_eq_ok_iff.1 added
      simp [Except.map, answerOf, Store.total]
  | updateBatch records =>
    refine (congrArg Outcome.result (Action.bind_pure_apply _ _ storage)).trans ?_
    rw [updateBatch_result, Store.afterCall]
    cases storage.store.updateBatch records <;> rfl
  | ping => rfl
  | getGauge name => rfl
  | getCounter name => rfl
  | gaugeNames => rfl
  | counterNames => rfl

theorem perform_world (storage : MemoryStorage) (call : StorageCall) :
    (backend.perform call storage).world =
      if call.isRead then storage else storage.settle (storage.store.afterCall call) := by
  cases call with
  | updateGauge name value =>
    exact (congrArg Outcome.world (Action.bind_pure_apply _ _ storage)).trans
      (updateGauge_world storage name value)
  | updateCounter name delta =>
    exact (congrArg Outcome.world (Action.bind_pure_apply _ _ storage)).trans
      (updateCounter_world storage name delta)
  | updateBatch records =>
    exact (congrArg Outcome.world (Action.bind_pure_apply _ _ storage)).trans
      (updateBatch_world storage records)
  | ping => rfl
  | getGauge name => rfl
  | getCounter name => rfl
  | gaugeNames => rfl
  | counterNames => rfl

/-- A refused call leaves the storage as it was, the disk included. -/
theorem perform_world_of_error {storage : MemoryStorage} {call : StorageCall} {cause : StorageError}
    (refused : (backend.perform call storage).result = .error cause) :
    (backend.perform call storage).world = storage := by
  rw [perform_result] at refused
  rw [perform_world]
  cases called : storage.store.afterCall call with
  | error reason => exact ite_self storage
  | ok next => simp [called, Except.map] at refused

/-- A call is refused exactly when its change of the store is. -/
theorem perform_eq_error_iff {storage : MemoryStorage} {call : StorageCall} {cause : StorageError} :
    (backend.perform call storage).result = .error cause ↔
      ∃ reason, storage.store.afterCall call = .error reason ∧ cause = .validation reason := by
  rw [perform_result]
  cases storage.store.afterCall call <;> simp [Except.map, eq_comm]

/-- An accepted call has applied its updates. -/
theorem applyAll_of_perform_eq_ok {storage : MemoryStorage} {call : StorageCall}
    {answer : StorageAnswer} (accepted : (backend.perform call storage).result = .ok answer) :
    storage.store.applyAll call.updates = .ok (backend.perform call storage).world.store ∧
      answer = answerOf storage.store (backend.perform call storage).world.store call := by
  rw [perform_result] at accepted
  rw [perform_world]
  cases called : storage.store.afterCall call with
  | error cause => simp [called, Except.map] at accepted
  | ok next =>
    simp only [called, Except.map, Action.mapError_ok, Except.ok.injEq] at accepted
    by_cases reads : call.isRead = true
    · have sameStore : next = storage.store :=
        (Except.ok.inj ((storage.store.afterCall_of_isRead reads).symm.trans called)).symm
      simp only [reads, if_true, StorageCall.updates_of_isRead reads, Store.applyAll_nil, true_and]
      rw [← accepted, sameStore]
    · simp only [reads, if_false, settle_ok_store, Store.applyAll_of_afterCall_eq_ok called,
        true_and, Bool.false_eq_true]
      exact accepted.symm

end MemoryStorage

end Telemetry
