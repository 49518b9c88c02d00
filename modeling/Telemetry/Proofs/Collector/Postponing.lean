import Telemetry.Proofs.Collector.Embedding
import Telemetry.Proofs.Collector.Updates

/-!
# Requests and the snapshot that follows them

A request over a storage in memory is answered as if no snapshot were kept. If it has updated the store, what
follows every update comes after all else that it does: nothing in the answer depends on it, and nothing that the
request still does changes the store that is written.
-/

namespace Telemetry

open MemoryStorage (backend)

variable {Cause Other Result Next : Type}

/-- The outcome of an action where no snapshot is kept, with what follows an update where one is kept. -/
def Outcome.thenSaved (file : Option SnapshotFile) (outcome : Outcome MemoryStorage (Except Cause Result)) :
    Outcome MemoryStorage (Except Cause Result) :=
  let storage : MemoryStorage := { outcome.world with file }
  match outcome.result with
  | .ok result =>
    let saved := storage.afterUpdate
    ⟨.ok result, saved.world, outcome.log ++ saved.log⟩
  | .error cause => ⟨.error cause, storage, outcome.log⟩

namespace Action

/-- The action does what it does where no snapshot is kept, and then what follows an update. -/
def Postpones (action : Action MemoryStorage Cause Result) : Prop :=
  ∀ storage : MemoryStorage, action storage = (action { storage with file := none }).thenSaved storage.file

variable {action : Action MemoryStorage Cause Result}

theorem Postpones.fail (cause : Cause) : (fail cause : Action MemoryStorage Cause Result).Postpones :=
  fun _ => rfl

theorem Postpones.mapCause (postpones : action.Postpones) (convert : Cause → Other) :
    (action.mapCause convert).Postpones := by
  intro storage
  rw [Action.mapCause, Action.mapCause, postpones storage, Outcome.thenSaved, Outcome.thenSaved]
  dsimp only
  cases (action { storage with file := none }).result <;> rfl

theorem Postpones.bind_pure (postpones : action.Postpones) (convert : Result → Next) :
    (action >>= fun result => pure (convert result)).Postpones := by
  intro storage
  rw [bind_pure_apply, bind_pure_apply, postpones storage, Outcome.thenSaved, Outcome.thenSaved]
  dsimp only
  cases (action { storage with file := none }).result <;> rfl

theorem Postpones.after_report (postpones : action.Postpones) (lines : List LogLine) :
    (report lines >>= fun _ => action).Postpones := by
  intro storage
  have reported (world : MemoryStorage) : (report lines >>= fun _ => action) world =
      ⟨(action world).result, (action world).world, lines ++ (action world).log⟩ := rfl
  rw [reported, reported, postpones storage, Outcome.thenSaved, Outcome.thenSaved]
  dsimp only
  cases (action { storage with file := none }).result with
  | ok result => exact congrArg (Outcome.mk _ _) (List.append_assoc _ _ _).symm
  | error cause => rfl

end Action

namespace MemoryStorage

theorem update_postpones (change : Store → Except ValidationError (Store × Result)) :
    (update change).Postpones := by
  intro storage
  unfold update
  dsimp only
  cases change storage.store with
  | error cause => rfl
  | ok changed =>
    have nothing : afterUpdate ⟨changed.1, none, storage.disk⟩ =
        ⟨.ok (), ⟨changed.1, none, storage.disk⟩, []⟩ := rfl
    dsimp only
    rw [afterUpdate_result, nothing]
    rfl

theorem updateBatch_postpones (records : List Record) : (backend.updateBatch records).Postpones :=
  (update_postpones _).after_report _

end MemoryStorage

namespace Service

theorem update_postpones (record : Record) : (update backend record).Postpones := by
  unfold update
  split
  · exact .fail _
  · exact ((MemoryStorage.update_postpones _).mapCause _).bind_pure _
  · exact ((MemoryStorage.update_postpones _).mapCause _).bind_pure _

theorem updateBatch_postpones (records : List Record) : (updateBatch backend records).Postpones := by
  unfold updateBatch
  split
  · exact .fail _
  · exact (MemoryStorage.updateBatch_postpones records).mapCause _

end Service

/-- A command that is no query. -/
theorem Command.perform_postpones {command : Command} (updates : command.isQuery = false) :
    (command.perform backend).Postpones := by
  cases command with
  | set record => exact ((Service.update_postpones record).mapCause _).bind_pure _
  | update record => exact ((Service.update_postpones record).mapCause _).bind_pure _
  | updateBatch records => exact ((Service.updateBatch_postpones records).mapCause _).bind_pure _
  | _ => cases updates

/-- A query has nothing to do with where the snapshot is kept. -/
theorem Command.perform_lifts (file : Option SnapshotFile) {command : Command} (query : command.isQuery = true) :
    Action.Lifts (fun storage : MemoryStorage => { storage with file }) (command.perform backend)
      (command.perform backend) := by
  have reads : Backend.LiftsReads (fun storage : MemoryStorage => { storage with file }) backend backend :=
    { ping := fun _ => rfl
      getGauge := fun _ _ => rfl
      getCounter := fun _ _ => rfl
      gaugeNames := fun _ => rfl
      counterNames := fun _ => rfl }
  exact lifts_query reads query

namespace Gate

/-- A request that does not update the store has nothing to do with where the snapshot is kept. -/
theorem handle_of_looks {gate : Gate} {request : Request} (storage : MemoryStorage)
    (looks : Action.Lifts (fun bare : MemoryStorage => { bare with file := storage.file })
      (gate.serve backend request) (gate.serve backend request)) :
    let handled := gate.handle backend request { storage with file := none }
    gate.handle backend request storage =
      (handled.1, { handled.2.1 with file := storage.file }, handled.2.2) := by
  have same := looks { storage with file := none }
  dsimp only at same
  unfold handle
  rw [same]
  rfl

/-- A request that may update the store is answered as where no snapshot is kept, and then comes what follows an
update, if it is done. -/
theorem handle_of_postpones {gate : Gate} {request : Request} (storage : MemoryStorage)
    (postpones : (gate.serve backend request).Postpones) :
    let handled := gate.handle backend request { storage with file := none }
    let next : MemoryStorage := { handled.2.1 with file := storage.file }
    gate.handle backend request storage =
      if handled.1.status = 200 then (handled.1, next.afterUpdate.world, handled.2.2 ++ next.afterUpdate.log)
      else (handled.1, next, handled.2.2) := by
  intro handled next
  have status : handled.1.status = _ := status_handle gate backend request { storage with file := none }
  cases outcome : (gate.serve backend request { storage with file := none }).result with
  | error refusal =>
    have refused := status_ne_of_refused outcome
    rw [outcome] at status
    rw [if_neg (status ▸ refused)]
    simp only [handle, postpones storage, Outcome.thenSaved, outcome, next, handled]
  | ok reply =>
    rw [outcome] at status
    rw [if_pos (status.trans (status_ofReply _ reply))]
    simp only [handle, postpones storage, Outcome.thenSaved, outcome, next, handled, refusalLines,
      List.append_nil]

/-- A request is answered as where no snapshot is kept, and then comes what follows an update, if it has updated
the store. -/
theorem handle_eq (gate : Gate) (request : Request) (storage : MemoryStorage) :
    let handled := gate.handle backend request { storage with file := none }
    let next : MemoryStorage := { handled.2.1 with file := storage.file }
    gate.handle backend request storage =
      if gate.updatesStore request handled.1 then
        (handled.1, next.afterUpdate.world, handled.2.2 ++ next.afterUpdate.log)
      else
        (handled.1, next, handled.2.2) := by
  intro handled next
  unfold updatesStore
  cases decided : gate.command request with
  | error refusal =>
    rw [if_neg (by simp [Except.toOption])]
    apply handle_of_looks
    rw [serve, decided]
    exact .fail refusal
  | ok command =>
    cases query : command.isQuery with
    | true =>
      rw [if_neg (by simp [Except.toOption, query])]
      apply handle_of_looks
      rw [serve, decided]
      exact Command.perform_lifts storage.file query
    | false =>
      have postpones : (gate.serve backend request).Postpones := by
        rw [serve, decided]
        exact Command.perform_postpones query
      simp only [Except.toOption, Option.any_some, query, Bool.not_false, Bool.and_true, decide_eq_true_eq]
      exact handle_of_postpones storage postpones

end Gate

end Telemetry
