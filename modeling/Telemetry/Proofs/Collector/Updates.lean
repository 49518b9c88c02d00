import Telemetry.Proofs.Collector.Effects

/-!
# The updates that are answered as done

Where a response says that a request is done, the updates that its records ask for have been made, in one
change of the store, and no others; where it says anything else, none have been made.
-/

namespace Telemetry

/-- A storage before and after updates. They are one change of the store, which may be followed by a snapshot;
where they leave the store as it was, nothing need have happened. -/
def MemoryStorage.Applies (storage : MemoryStorage) (updates : List (String × Value))
    (after : MemoryStorage) : Prop :=
  ∃ next, storage.store.applyAll updates = .ok next ∧
    (after = storage.settle (.ok next) ∨ next = storage.store ∧ after = storage)

namespace MemoryStorage

variable {storage after : MemoryStorage} {updates : List (String × Value)}

theorem Applies.applyAll (applies : storage.Applies updates after) :
    storage.store.applyAll updates = .ok after.store := by
  obtain ⟨next, applied, rfl | ⟨rfl, rfl⟩⟩ := applies
  · rw [applied, settle_ok_store]
  · exact applied

end MemoryStorage

open MemoryStorage (backend)

namespace Service

variable {storage : MemoryStorage}

theorem applies_update {record stored : Record}
    (done : (update backend record storage).result = .ok stored) :
    storage.Applies ([record].filterMap Record.asked?) (update backend record storage).world := by
  cases updated : storage.store.updateRecord record with
  | error cause => cases (update_of_error updated).1.symm.trans done
  | ok next =>
    obtain ⟨_, _, sameWorld⟩ := update_of_ok updated
    refine ⟨next, ?_, .inl sameWorld⟩
    unfold Store.updateRecord at updated
    cases validated : record.validate with
    | error cause =>
      rw [validated] at updated
      cases updated
    | ok value =>
      rw [validated] at updated
      rw [List.filterMap_cons, Record.asked?_of_validate_eq_ok validated]
      exact Store.applyAll_cons_eq_ok_iff.2 ⟨next, updated, rfl⟩

theorem applies_updateBatch {records : List Record}
    (done : (updateBatch backend records storage).result = .ok ()) :
    storage.Applies (records.filterMap Record.asked?) (updateBatch backend records storage).world := by
  have nonempty : records ≠ [] := by
    rintro rfl
    cases done
  rw [updateBatch_result_of_ne_nil nonempty] at done
  rw [updateBatch_world_of_ne_nil nonempty]
  cases updated : storage.store.updateBatch records with
  | error cause =>
    rw [updated] at done
    cases done
  | ok next => exact ⟨next, (Store.updateBatch_eq_ok updated).2, .inl rfl⟩

end Service

/-- A command that is done has made the updates that its records ask for. -/
theorem Command.applies_perform {command : Command} {storage : MemoryStorage} {reply : Reply}
    (done : (command.perform backend storage).result = .ok reply) :
    storage.Applies (command.records.filterMap Record.asked?) (command.perform backend storage).world := by
  have looks (query : command.isQuery = true) (carriesNone : command.records = []) :
      storage.Applies (command.records.filterMap Record.asked?) (command.perform backend storage).world := by
    rw [carriesNone, perform_readsOnly query storage]
    exact ⟨storage.store, rfl, .inr ⟨rfl, rfl⟩⟩
  cases command with
  | list => exact looks rfl rfl
  | ping => exact looks rfl rfl
  | «show» asked => exact looks rfl rfl
  | query asked => exact looks rfl rfl
  | set record =>
    obtain ⟨_, updated, _, sameWorld⟩ := Action.exists_of_bind_pure_eq_ok _ done
    exact sameWorld ▸ Service.applies_update updated
  | update record =>
    obtain ⟨_, updated, _, sameWorld⟩ := Action.exists_of_bind_pure_eq_ok _ done
    exact sameWorld ▸ Service.applies_update updated
  | updateBatch records =>
    obtain ⟨_, updated, _, sameWorld⟩ := Action.exists_of_bind_pure_eq_ok _ done
    exact sameWorld ▸ Service.applies_updateBatch updated

namespace Gate

/-- The updates that a request has made: those that its records ask for, if it has been done. -/
def updates (gate : Gate) (request : Request) (response : Response) : List (String × Value) :=
  if response.status = 200 then (gate.carried request).filterMap Record.asked? else []

theorem applies_serve {gate : Gate} {request : Request} {storage : MemoryStorage} {reply : Reply}
    (done : (gate.serve backend request storage).result = .ok reply) :
    storage.Applies ((gate.carried request).filterMap Record.asked?)
      (gate.serve backend request storage).world := by
  unfold serve at done ⊢
  unfold carried
  cases decided : gate.command request with
  | error refusal =>
    rw [decided] at done
    cases done
  | ok command =>
    rw [decided] at done
    exact Command.applies_perform done

/-- A request makes the updates that its records ask for, if the response says that it is done, and none
otherwise. -/
theorem applies_handle (gate : Gate) (request : Request) (storage : MemoryStorage) :
    storage.Applies (gate.updates request (gate.handle backend request storage).1)
      (gate.handle backend request storage).2.1 := by
  have leaves : (gate.handle backend request storage).2.1 = (gate.serve backend request storage).world := rfl
  rw [leaves, updates, status_handle]
  cases outcome : (gate.serve backend request storage).result with
  | error refusal =>
    have notDone := status_ne_of_refused outcome
    rw [serve_allOrNothing gate request storage refusal outcome]
    exact ⟨storage.store, congrArg storage.store.applyAll (if_neg notDone), .inr ⟨rfl, rfl⟩⟩
  | ok reply =>
    rw [Response.ofOutcome, if_pos (status_ofReply _ reply)]
    exact applies_serve outcome

/-- The updates of all requests that are answered as done, in order. -/
def accepted (gate : Gate) (asked : List Request) (answered : List Response) : List (String × Value) :=
  (asked.zip answered).flatMap fun (request, response) => gate.updates request response

end Gate

end Telemetry
