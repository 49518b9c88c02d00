import Telemetry.Proofs.Effects
import Telemetry.Proofs.Service.Batching

/-!
# What the service may do to a storage in memory

Queries only look. An update that fails has done nothing, and one that succeeds has touched the metrics that
its records name and no others. Nothing fails on account of the storage itself.
-/

namespace Telemetry

/-- The store refused what it was asked to do. -/
def StorageError.IsRefusal (error : StorageError) : Prop :=
  ∃ cause, error = .validation cause

/-- The service was asked for what it cannot do; nothing has broken. -/
def ServiceError.IsDenial : ServiceError → Prop
  | validation _ | notFound _ _ => True
  | storage _ => False

theorem ServiceError.isDenial_ofStorage {error : StorageError} (refusal : error.IsRefusal) :
    (ofStorage error).IsDenial := by
  obtain ⟨cause, rfl⟩ := refusal
  trivial

/-- Some of the records are about the metric with the given kind and name. -/
def Batch.Names (records : List Record) (kind : Kind) (name : String) : Prop :=
  ∃ record ∈ records, record.type = .known kind ∧ record.id = name

namespace MemoryStorage

theorem inspect_readsOnly {Result : Type} (view : Store → Result) : (inspect view).ReadsOnly :=
  fun _ => rfl

theorem inspect_failsOnly {Result : Type} (kind : StorageError → Prop) (view : Store → Result) :
    (inspect view).FailsOnly kind := by
  intro storage cause fails
  cases fails

theorem update_allOrNothing {Result : Type}
    (change : Store → Except ValidationError (Store × Result)) : (update change).AllOrNothing := by
  intro storage cause fails
  rw [update_result] at fails
  rw [update_world]
  cases changed : change storage.store with
  | error reason => rfl
  | ok result => simp [changed, Except.map] at fails

theorem update_failsOnly {Result : Type}
    (change : Store → Except ValidationError (Store × Result)) :
    (update change).FailsOnly StorageError.IsRefusal := by
  intro storage cause fails
  rw [update_result] at fails
  cases changed : change storage.store with
  | error reason =>
    simp only [changed, Except.map, Action.mapError_error, Except.error.injEq] at fails
    exact ⟨reason, fails.symm⟩
  | ok result => simp [changed, Except.map] at fails

theorem updateBatch_allOrNothing (records : List Record) :
    (backend.updateBatch records).AllOrNothing :=
  fun storage cause fails => update_allOrNothing _ storage cause fails

theorem updateBatch_failsOnly (records : List Record) :
    (backend.updateBatch records).FailsOnly StorageError.IsRefusal :=
  fun storage cause fails => update_failsOnly _ storage cause fails

end MemoryStorage

namespace Service

open MemoryStorage (backend)

theorem call_failsOnly {Result : Type} {action : Action MemoryStorage StorageError Result}
    (failsOnly : action.FailsOnly StorageError.IsRefusal) :
    (call action).FailsOnly ServiceError.IsDenial :=
  failsOnly.mapCause fun _ => ServiceError.isDenial_ofStorage

/-! ## Queries -/

theorem lookup_readsOnly (kind : Kind) (name : String) : (lookup backend kind name).ReadsOnly := by
  cases kind with
  | gauge =>
    exact ((MemoryStorage.inspect_readsOnly _).mapCause _).bind fun _ => .pure _
  | counter =>
    exact ((MemoryStorage.inspect_readsOnly _).mapCause _).bind fun _ => .pure _

theorem lookup_failsOnly (kind : Kind) (name : String) :
    (lookup backend kind name).FailsOnly ServiceError.IsDenial := by
  cases kind with
  | gauge => exact (call_failsOnly (MemoryStorage.inspect_failsOnly _ _)).bind fun _ => .pure _ _
  | counter => exact (call_failsOnly (MemoryStorage.inspect_failsOnly _ _)).bind fun _ => .pure _ _

theorem value_readsOnly (query : Record) : (value backend query).ReadsOnly := by
  unfold value
  split
  · exact .fail _
  · refine (lookup_readsOnly _ _).bind ?_
    intro found
    cases found with
    | none => exact .fail _
    | some value => exact .pure _

theorem value_failsOnly (query : Record) : (value backend query).FailsOnly ServiceError.IsDenial := by
  unfold value
  split
  · exact .fail trivial
  · refine (lookup_failsOnly _ _).bind ?_
    intro found
    cases found with
    | none => exact .fail trivial
    | some value => exact .pure _ _

theorem valuesOf_readsOnly (kind : Kind) (names : List String) :
    (valuesOf backend kind names).ReadsOnly := by
  induction names with
  | nil => exact .pure _
  | cons name names inductionHypothesis =>
    exact (lookup_readsOnly kind name).bind fun _ => inductionHypothesis.bind fun _ => .pure _

theorem valuesOf_failsOnly (kind : Kind) (names : List String) :
    (valuesOf backend kind names).FailsOnly ServiceError.IsDenial := by
  induction names with
  | nil => exact .pure _ _
  | cons name names inductionHypothesis =>
    exact (lookup_failsOnly kind name).bind fun _ => inductionHypothesis.bind fun _ => .pure _ _

theorem list_readsOnly : (list backend).ReadsOnly :=
  ((MemoryStorage.inspect_readsOnly _).mapCause _).bind fun _ =>
    (valuesOf_readsOnly _ _).bind fun _ =>
      ((MemoryStorage.inspect_readsOnly _).mapCause _).bind fun _ =>
        (valuesOf_readsOnly _ _).bind fun _ => .pure _

theorem list_failsOnly : (list backend).FailsOnly ServiceError.IsDenial :=
  (call_failsOnly (MemoryStorage.inspect_failsOnly _ _)).bind fun _ =>
    (valuesOf_failsOnly _ _).bind fun _ =>
      (call_failsOnly (MemoryStorage.inspect_failsOnly _ _)).bind fun _ =>
        (valuesOf_failsOnly _ _).bind fun _ => .pure _ _

/-! ## Updates -/

theorem update_failsOnly (record : Record) :
    (update backend record).FailsOnly ServiceError.IsDenial := by
  unfold update
  split
  · exact .fail trivial
  · exact (call_failsOnly (MemoryStorage.update_failsOnly _)).bind fun _ => .pure _ _
  · exact (call_failsOnly (MemoryStorage.update_failsOnly _)).bind fun _ => .pure _ _

theorem update_allOrNothing (record : Record) : (update backend record).AllOrNothing := by
  intro storage cause fails
  cases updated : storage.store.updateRecord record with
  | error reason => exact (update_of_error updated).2
  | ok next =>
    obtain ⟨stored, taken, _⟩ := update_of_ok updated
    cases taken.symm.trans fails

theorem updateBatch_failsOnly (records : List Record) :
    (updateBatch backend records).FailsOnly ServiceError.IsDenial := by
  unfold updateBatch
  split
  · exact .fail trivial
  · exact call_failsOnly (MemoryStorage.updateBatch_failsOnly records)

theorem updateBatch_allOrNothing (records : List Record) :
    (updateBatch backend records).AllOrNothing := by
  unfold updateBatch
  split
  · exact (Action.ReadsOnly.fail _).allOrNothing
  · exact (MemoryStorage.updateBatch_allOrNothing records).mapCause _

/-- A record touches the metric that it names alone. -/
theorem update_frame {record : Record} {kind : Kind} {name : String} (storage : MemoryStorage)
    (unnamed : ¬Batch.Names [record] kind name) :
    (update backend record storage).world.store.get? kind name = storage.store.get? kind name := by
  cases updated : storage.store.updateRecord record with
  | error cause => rw [(update_of_error updated).2]
  | ok next =>
    obtain ⟨stored, _, sameWorld⟩ := update_of_ok updated
    rw [sameWorld, MemoryStorage.settle_ok_store]
    unfold Store.updateRecord at updated
    cases validated : record.validate with
    | error cause => simp [validated, Except.bind] at updated
    | ok value =>
      have applied : storage.store.apply record.id value = .ok next := by
        simpa [validated, Except.bind] using updated
      refine @Store.get?_apply_of_ne _ _ (record.id, value) _ _ applied ?_
      rintro ⟨sameName, sameKind⟩
      refine unnamed ⟨record, List.mem_singleton_self record, ?_, sameName⟩
      rw [Record.type_of_validate_eq_ok validated, ← sameKind]

/-- A batch touches the metrics that its records name alone. -/
theorem updateBatch_frame {records : List Record} {kind : Kind} {name : String}
    (storage : MemoryStorage) (unnamed : ¬Batch.Names records kind name) :
    (updateBatch backend records storage).world.store.get? kind name =
      storage.store.get? kind name := by
  by_cases nonempty : records = []
  · subst nonempty
    rfl
  · rw [updateBatch_world_of_ne_nil nonempty]
    cases updated : storage.store.updateBatch records with
    | error cause => rfl
    | ok next =>
      rw [MemoryStorage.settle_ok_store]
      refine Store.get?_applyAll_of_forall_ne (Store.updateBatch_eq_ok updated).2 ?_
      rintro update asked ⟨sameName, sameKind⟩
      obtain ⟨record, member, asks⟩ := List.mem_filterMap.1 asked
      obtain ⟨ownName, ownType⟩ := Record.id_and_type_of_asked?_eq_some asks
      exact unnamed ⟨record, member, ownType.trans (by rw [sameKind]), ownName.trans sameName⟩

end Service

end Telemetry
