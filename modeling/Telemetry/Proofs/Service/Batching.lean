import Telemetry.Proofs.Store.MemoryCalls
import Telemetry.Proofs.Store.Refusal
import Telemetry.Service

/-!
# Batches through the service

Sending a batch to the service over a store in memory comes to the same as sending its records of known
types one by one, except that a batch that is refused leaves nothing behind.
-/

namespace Telemetry

namespace Service

variable {World : Type}

/-- Sends records one after another; the first that fails ends it. -/
def updateEach (backend : Backend World) : List Record → Action World ServiceError Unit
  | [] => .done ()
  | record :: records => do
    let _ ← update backend record
    updateEach backend records

/-! ## One record -/

theorem call_result {Result : Type} (action : Action World StorageError Result) (world : World) :
    (call action world).result = (action world).result.mapError ServiceError.ofStorage := rfl

theorem call_world {Result : Type} (action : Action World StorageError Result) (world : World) :
    (call action world).world = (action world).world := rfl

variable {storage : MemoryStorage} {record : Record}

/-- A record that the store takes is taken by the service. -/
theorem update_of_ok {next : Store} (updated : storage.store.updateRecord record = .ok next) :
    ∃ stored, (update MemoryStorage.backend record storage).result = .ok stored ∧
      (update MemoryStorage.backend record storage).world = storage.settle (.ok next) := by
  unfold Store.updateRecord at updated
  unfold update
  cases validated : record.validate with
  | error cause => simp [validated, Except.bind] at updated
  | ok value =>
    rw [validated] at updated
    cases value with
    | gauge reading =>
      have applied : storage.store.setGauge record.id reading = .ok next := updated
      refine ⟨Record.gauge record.id reading, ?_, ?_⟩
      · refine (congrArg Outcome.result (Action.bind_pure_apply _ _ storage)).trans ?_
        rw [call_result, MemoryStorage.updateGauge_result, applied]
        rfl
      · refine (congrArg Outcome.world (Action.bind_pure_apply _ _ storage)).trans ?_
        rw [call_world, MemoryStorage.updateGauge_world, applied]
    | counter delta =>
      have applied : (storage.store.addCounter record.id delta).map Prod.fst = .ok next := updated
      cases added : storage.store.addCounter record.id delta with
      | error cause => simp [added, Except.map] at applied
      | ok result =>
        refine ⟨Record.counter record.id result.2, ?_, ?_⟩
        · refine (congrArg Outcome.result (Action.bind_pure_apply _ _ storage)).trans ?_
          rw [call_result, MemoryStorage.updateCounter_result, added]
          rfl
        · refine (congrArg Outcome.world (Action.bind_pure_apply _ _ storage)).trans ?_
          rw [call_world, MemoryStorage.updateCounter_world, applied]

/-- A record that the store refuses is refused by the service, and nothing happens. -/
theorem update_of_error {cause : ValidationError}
    (refused : storage.store.updateRecord record = .error cause) :
    (update MemoryStorage.backend record storage).result = .error (.validation cause) ∧
      (update MemoryStorage.backend record storage).world = storage := by
  unfold Store.updateRecord at refused
  unfold update
  cases validated : record.validate with
  | error reason =>
    simp only [validated, Except.bind, Except.error.injEq] at refused
    subst refused
    exact ⟨rfl, rfl⟩
  | ok value =>
    rw [validated] at refused
    cases value with
    | gauge reading =>
      have applied : storage.store.setGauge record.id reading = .error cause := refused
      constructor
      · refine (congrArg Outcome.result (Action.bind_pure_apply _ _ storage)).trans ?_
        rw [call_result, MemoryStorage.updateGauge_result, applied]
        rfl
      · refine (congrArg Outcome.world (Action.bind_pure_apply _ _ storage)).trans ?_
        rw [call_world, MemoryStorage.updateGauge_world, applied]
        rfl
    | counter delta =>
      have applied : (storage.store.addCounter record.id delta).map Prod.fst = .error cause := refused
      cases added : storage.store.addCounter record.id delta with
      | ok result => simp [added, Except.map] at applied
      | error reason =>
        have sameCause : reason = cause := by simpa [added, Except.map] using applied
        constructor
        · refine (congrArg Outcome.result (Action.bind_pure_apply _ _ storage)).trans ?_
          rw [call_result, MemoryStorage.updateCounter_result, added, sameCause]
          rfl
        · refine (congrArg Outcome.world (Action.bind_pure_apply _ _ storage)).trans ?_
          rw [call_world, MemoryStorage.updateCounter_world, applied]
          rfl

/-! ## Many records -/

/-- Records are all taken by the service when the store takes them one after another, and the storage is
left as by one change. -/
theorem updateEach_of_ok {records : List Record} {final : Store}
    (updated : storage.store.updateEach records = .ok final) :
    (updateEach MemoryStorage.backend records storage).result = .ok () ∧
      (updateEach MemoryStorage.backend records storage).world.store = final ∧
      (records ≠ [] →
        (updateEach MemoryStorage.backend records storage).world = storage.settle (.ok final)) := by
  induction records generalizing storage with
  | nil =>
    cases updated
    exact ⟨rfl, rfl, fun nonempty => absurd rfl nonempty⟩
  | cons record records inductionHypothesis =>
    rw [Store.updateEach_cons] at updated
    cases first : storage.store.updateRecord record with
    | error cause => simp [first, Except.bind] at updated
    | ok next =>
      obtain ⟨stored, taken, sameWorld⟩ := update_of_ok first
      have rest : next.updateEach records = .ok final := by
        simpa [first, Except.bind] using updated
      rw [← MemoryStorage.settle_ok_store storage next] at rest
      obtain ⟨allTaken, sameStore, settled⟩ := inductionHypothesis rest
      rw [updateEach, Action.bind_apply_ok taken, sameWorld]
      refine ⟨allTaken, sameStore, fun _ => ?_⟩
      cases records with
      | nil =>
        have isLast : next = final :=
          (MemoryStorage.settle_ok_store storage next).symm.trans sameStore
        rw [← isLast]
        rfl
      | cons =>
        exact (settled (List.cons_ne_nil _ _)).trans (MemoryStorage.settle_settle storage next final)

/-- Records that the store does not all take fail in the service too. -/
theorem updateEach_of_error {records : List Record} {cause : ValidationError}
    (refused : storage.store.updateEach records = .error cause) :
    (updateEach MemoryStorage.backend records storage).result = .error (.validation cause) := by
  induction records generalizing storage with
  | nil => cases refused
  | cons record records inductionHypothesis =>
    rw [Store.updateEach_cons] at refused
    cases first : storage.store.updateRecord record with
    | error reason =>
      simp only [first, Except.bind, Except.error.injEq] at refused
      subst refused
      rw [updateEach, Action.bind_apply_error (update_of_error first).1]
    | ok next =>
      obtain ⟨stored, taken, sameWorld⟩ := update_of_ok first
      rw [updateEach, Action.bind_apply_ok taken, sameWorld]
      refine inductionHypothesis ?_
      rw [MemoryStorage.settle_ok_store]
      simpa [first, Except.bind] using refused

theorem updateBatch_result_of_ne_nil {records : List Record} (nonempty : records ≠ []) :
    (updateBatch MemoryStorage.backend records storage).result =
      ((storage.store.updateBatch records).map fun _ => ()).mapError .validation := by
  unfold updateBatch
  rw [if_neg (by simpa using nonempty), call_result, MemoryStorage.updateBatch_result]
  cases storage.store.updateBatch records <;> rfl

theorem updateBatch_world_of_ne_nil {records : List Record} (nonempty : records ≠ []) :
    (updateBatch MemoryStorage.backend records storage).world =
      storage.settle (storage.store.updateBatch records) := by
  unfold updateBatch
  rw [if_neg (by simpa using nonempty), call_world, MemoryStorage.updateBatch_world]

/-- A batch agrees with its records of known types one by one: it succeeds exactly when they all do, with
the same store and, unless there are none, the same snapshot on the disk. It is refused for the first invalid
record among them; if there is none, for the first counter whose running total leaves the range; and then
nothing has happened. -/
theorem updateBatch_agrees (storage : MemoryStorage) (records : List Record)
    (nonempty : records ≠ []) :
    let known := records.filter Record.hasKnownType
    let whole := updateBatch MemoryStorage.backend records storage
    let single := updateEach MemoryStorage.backend known storage
    (whole.result = .ok () ↔ single.result = .ok ()) ∧
    (whole.result = .ok () → whole.world.store = single.world.store ∧
      (known ≠ [] → whole.world = single.world)) ∧
    (∀ cause, whole.result = .error cause ↔
      ∃ reason, cause = .validation reason ∧
        (Batch.FirstInvalid known reason ∨
          (∀ record ∈ known, record.Valid) ∧ storage.store.FirstOverflow known reason)) ∧
    (∀ cause, whole.result = .error cause → whole.world = storage) := by
  intro known whole single
  have wholeResult : whole.result = _ := updateBatch_result_of_ne_nil nonempty
  have wholeWorld : whole.world = _ := updateBatch_world_of_ne_nil nonempty
  cases updated : storage.store.updateBatch records with
  | ok final =>
    obtain ⟨singleResult, singleStore, singleWorld⟩ :=
      updateEach_of_ok (Store.updateBatch_eq_ok_iff.1 updated)
    have notRefused : ∀ reason, ¬(Batch.FirstInvalid known reason ∨
        (∀ record ∈ known, record.Valid) ∧ storage.store.FirstOverflow known reason) := by
      intro reason refusal
      cases updated.symm.trans (Store.updateBatch_eq_error_iff.2 refusal)
    rw [updated] at wholeResult wholeWorld
    refine ⟨⟨fun _ => singleResult, fun _ => wholeResult⟩, fun _ => ?_, fun cause => ?_, ?_⟩
    · rw [wholeWorld, MemoryStorage.settle_ok_store]
      exact ⟨singleStore.symm, fun someKnown => (singleWorld someKnown).symm⟩
    · rw [wholeResult]
      simp [Except.map, notRefused]
    · intro cause refused
      cases wholeResult.symm.trans refused
  | error reason =>
    have refusal := Store.updateBatch_eq_error_iff.1 updated
    rw [updated] at wholeResult wholeWorld
    have singleFails : ∃ cause, single.result = .error cause := by
      cases each : storage.store.updateEach known with
      | ok final => cases updated.symm.trans (Store.updateBatch_eq_ok_iff.2 each)
      | error cause => exact ⟨_, updateEach_of_error each⟩
    obtain ⟨singleCause, singleResult⟩ := singleFails
    refine ⟨?_, ?_, fun cause => ?_, fun _ _ => wholeWorld⟩
    · rw [wholeResult, singleResult]
      simp [Except.map]
    · intro succeeded
      cases wholeResult.symm.trans succeeded
    · rw [wholeResult]
      constructor
      · intro sameCause
        exact ⟨reason, (Except.error.inj sameCause).symm, refusal⟩
      · rintro ⟨other, rfl, otherRefusal⟩
        have sameReason : reason = other :=
          Except.error.inj (updated.symm.trans (Store.updateBatch_eq_error_iff.2 otherRefusal))
        rw [sameReason]
        rfl

/-- The second of two increments of one counter overflows, after a record of a type that nobody knows:
nothing of the batch stays. -/
theorem updateBatch_agrees_overflow :
    let five : Count := ⟨5, by decide, by decide⟩
    let most : Count := ⟨2 ^ 63 - 3, by decide, by decide⟩
    let records := [Record.counter "hits" five, ⟨"", .ofName "timer", none, none⟩,
      Record.counter "hits" most]
    let storage := MemoryStorage.fresh none Disk.empty
    let whole := updateBatch MemoryStorage.backend records storage
    records ≠ [] ∧ whole.result = .error (.validation (.counterOverflow "hits")) ∧
      whole.world = storage := by
  intro five most records storage whole
  have nonempty : records ≠ [] := List.cons_ne_nil _ _
  have refused : whole.result = .error (.validation (.counterOverflow "hits")) := by
    decide +kernel
  exact ⟨nonempty, refused, (updateBatch_agrees storage records nonempty).2.2.2 _ refused⟩

end Service

end Telemetry
