import Telemetry.Collector.Handler
import Telemetry.Proofs.Collector.Routes
import Telemetry.Proofs.Service.Effects

/-!
# What a request may do to a collector in memory

Whatever a request is refused for, and wherever that is found out, the collector is as it was. Queries change
nothing, and an update changes the metrics that the records of the request name. No request makes a
collector in memory fail on its own account.
-/

namespace Telemetry

/-- The fault is the sender's. -/
def Refusal.IsSenders (refusal : Refusal) : Prop :=
  400 ≤ refusal.status ∧ refusal.status < 500

/-- The fault is always the sender's, unless the storage has failed. -/
theorem Refusal.isSenders_of_ne {refusal : Refusal}
    (notStorage : ∀ cause, refusal ≠ .service (.storage cause)) : refusal.IsSenders := by
  cases refusal with
  | service cause =>
    cases cause with
    | validation cause => simp [IsSenders, status]
    | notFound kind name => simp [IsSenders, status]
    | storage cause => exact absurd rfl (notStorage cause)
  | _ => simp [IsSenders, status]

namespace Command

open MemoryStorage (backend)

/-- The records that a command puts into the store. -/
def records : Command → List Record
  | set record | update record => [record]
  | updateBatch records => records
  | _ => []

theorem isSenders_service {cause : ServiceError} (denial : cause.IsDenial) :
    (Refusal.service cause).IsSenders := by
  cases cause with
  | validation cause => exact Refusal.isSenders_of_ne (by simp)
  | notFound kind name => exact Refusal.isSenders_of_ne (by simp)
  | storage cause => exact denial.elim

theorem isSenders_showRefusal {cause : ServiceError} (denial : cause.IsDenial) :
    (showRefusal cause).IsSenders := by
  cases cause with
  | validation cause => exact Refusal.isSenders_of_ne (by simp [showRefusal])
  | notFound kind name => exact Refusal.isSenders_of_ne (by simp [showRefusal])
  | storage cause => exact denial.elim

theorem isSenders_of_valueText_eq_error {record : Record} {refusal : Refusal}
    (fails : valueText record = .error refusal) : refusal.IsSenders := by
  unfold valueText at fails
  split at fails
  · cases fails
  · cases fails
    exact isSenders_service trivial

theorem perform_readsOnly {command : Command} (query : command.isQuery = true) :
    (command.perform backend).ReadsOnly := by
  cases command with
  | list => exact (Service.list_readsOnly.mapCause _).bind fun _ => .pure _
  | ping =>
    intro storage
    rfl
  | «show» asked =>
    exact ((Service.value_readsOnly asked).mapCause _).bind fun _ =>
      (Action.ReadsOnly.ofExcept _).bind fun _ => .pure _
  | query asked => exact ((Service.value_readsOnly asked).mapCause _).bind fun _ => .pure _
  | set record => cases query
  | update record => cases query
  | updateBatch records => cases query

/-- A command that fails has done nothing. -/
theorem perform_allOrNothing (command : Command) : (command.perform backend).AllOrNothing := by
  cases command with
  | list => exact (perform_readsOnly rfl).allOrNothing
  | ping => exact (perform_readsOnly rfl).allOrNothing
  | «show» asked => exact (perform_readsOnly rfl).allOrNothing
  | query asked => exact (perform_readsOnly rfl).allOrNothing
  | set record => exact ((Service.update_allOrNothing record).mapCause _).bind_pure _
  | update record => exact ((Service.update_allOrNothing record).mapCause _).bind_pure _
  | updateBatch records => exact ((Service.updateBatch_allOrNothing records).mapCause _).bind_pure _

/-- A command fails on account of the sender alone. -/
theorem perform_failsOnly (command : Command) :
    (command.perform backend).FailsOnly Refusal.IsSenders := by
  have service : ∀ cause : ServiceError, cause.IsDenial → (Refusal.service cause).IsSenders :=
    fun _ => isSenders_service
  cases command with
  | list => exact (Service.list_failsOnly.mapCause service).bind fun _ => .pure _ _
  | ping =>
    intro storage cause fails
    cases fails
  | «show» asked =>
    refine ((Service.value_failsOnly asked).mapCause fun _ => isSenders_showRefusal).bind fun _ => ?_
    exact (Action.FailsOnly.ofExcept fun _ => isSenders_of_valueText_eq_error).bind fun _ => .pure _ _
  | query asked => exact ((Service.value_failsOnly asked).mapCause service).bind fun _ => .pure _ _
  | set record => exact ((Service.update_failsOnly record).mapCause service).bind fun _ => .pure _ _
  | update record => exact ((Service.update_failsOnly record).mapCause service).bind fun _ => .pure _ _
  | updateBatch records =>
    exact ((Service.updateBatch_failsOnly records).mapCause service).bind fun _ => .pure _ _

/-- A command touches the metrics that its records name alone. -/
theorem perform_frame {command : Command} {kind : Kind} {name : String} (storage : MemoryStorage)
    (unnamed : ¬Batch.Names command.records kind name) :
    (command.perform backend storage).world.store.get? kind name = storage.store.get? kind name := by
  cases command with
  | list => rw [perform_readsOnly rfl storage]
  | ping => rw [perform_readsOnly rfl storage]
  | «show» asked => rw [perform_readsOnly rfl storage]
  | query asked => rw [perform_readsOnly rfl storage]
  | set record =>
    have sameWorld : (perform backend (set record) storage).world =
        (Service.update backend record storage).world :=
      congrArg Outcome.world (Action.bind_pure_apply _ _ storage)
    rw [sameWorld]
    exact Service.update_frame storage unnamed
  | update record =>
    have sameWorld : (perform backend (update record) storage).world =
        (Service.update backend record storage).world :=
      congrArg Outcome.world (Action.bind_pure_apply _ _ storage)
    rw [sameWorld]
    exact Service.update_frame storage unnamed
  | updateBatch records =>
    have sameWorld : (perform backend (updateBatch records) storage).world =
        (Service.updateBatch backend records storage).world :=
      congrArg Outcome.world (Action.bind_pure_apply _ _ storage)
    rw [sameWorld]
    exact Service.updateBatch_frame storage unnamed

end Command

theorem Response.status_compress (response : Response) : response.compress.status = response.status := by
  unfold compress
  split <;> rfl

namespace Gate

open MemoryStorage (backend)

/-! ## Requests that are refused by themselves -/

theorem isSenders_of_checkAddress {gate : Gate} {headers : Headers} {refusal : Refusal}
    (fails : gate.checkAddress headers = .error refusal) : refusal.IsSenders := by
  unfold checkAddress at fails
  split at fails
  · cases fails
  · dsimp only at fails
    split at fails
    · cases fails
    · cases fails
      exact Refusal.isSenders_of_ne (by simp)

theorem isSenders_of_checkType {headers : Headers} {expected : String} {refusal : Refusal}
    (fails : checkType headers expected = .error refusal) : refusal.IsSenders := by
  unfold checkType at fails
  split at fails
  · cases fails
  · cases fails
    exact Refusal.isSenders_of_ne (by simp)

theorem isSenders_of_checkDeclaredLength {headers : Headers} {longest : Nat} {refusal : Refusal}
    (fails : checkDeclaredLength headers longest = .error refusal) : refusal.IsSenders := by
  unfold checkDeclaredLength at fails
  split at fails
  · cases fails
  · split at fails
    · cases fails
      exact Refusal.isSenders_of_ne (by simp)
    · split at fails
      · cases fails
        exact Refusal.isSenders_of_ne (by simp)
      · cases fails

theorem isSenders_of_checkLength {body : Bytes} {refusal : Refusal}
    (fails : checkLength body = .error refusal) : refusal.IsSenders := by
  unfold checkLength at fails
  split at fails
  · cases fails
    exact Refusal.isSenders_of_ne (by simp)
  · cases fails

theorem isSenders_of_body {Datum : Type}
    {read : Bytes → Bool → Option String → Except PayloadError Datum} {request : Request}
    {refusal : Refusal} (fails : body read request = .error refusal) : refusal.IsSenders := by
  rcases bind_eq_error fails with wrongType | ⟨_, fails⟩
  · exact isSenders_of_checkType wrongType
  rcases bind_eq_error fails with wrongLength | ⟨_, fails⟩
  · exact isSenders_of_checkDeclaredLength wrongLength
  rcases bind_eq_error fails with tooLong | ⟨_, fails⟩
  · exact isSenders_of_checkLength tooLong
  cases outcome : read request.body request.headers.isGzipped
      (request.headers.firstText? Protocol.signatureHeader) with
  | error cause =>
    simp only [outcome, Action.mapError_error, Except.error.injEq] at fails
    subst fails
    exact Refusal.isSenders_of_ne (by simp)
  | ok datum => simp [outcome] at fails

theorem isSenders_of_textRecord {headers : Headers} {type name raw : String} {refusal : Refusal}
    (fails : textRecord headers type name raw = .error refusal) : refusal.IsSenders := by
  rcases bind_eq_error fails with wrongType | ⟨_, fails⟩
  · exact isSenders_of_checkType wrongType
  dsimp only at fails
  split at fails
  · cases fails
    exact Refusal.isSenders_of_ne (by simp)
  · cases outcome : Record.ofText type name raw with
    | error cause =>
      have refused : Refusal.service (.validation cause) = refusal := by
        simpa [outcome] using fails
      subst refused
      exact Refusal.isSenders_of_ne (by simp)
    | ok record => simp [outcome] at fails

theorem isSenders_unrouted (method path : String) : (unrouted method path).IsSenders := by
  unfold unrouted
  split
  · exact Refusal.isSenders_of_ne (by simp)
  · exact Refusal.isSenders_of_ne (by simp)

/-- A request that is refused by itself is refused on account of the sender. -/
theorem isSenders_of_command {gate : Gate} {request : Request} {refusal : Refusal}
    (fails : gate.command request = .error refusal) : refusal.IsSenders := by
  unfold command at fails
  split at fails
  · cases fails
  · cases fails
  · split at fails
    · cases fails
      exact Refusal.isSenders_of_ne (by simp)
    · cases fails
  · exact isSenders_of_body (map_eq_error fails)
  · exact isSenders_of_body (map_eq_error fails)
  · rcases bind_eq_error fails with untrusted | ⟨_, fails⟩
    · exact isSenders_of_checkAddress untrusted
    · exact isSenders_of_body (map_eq_error fails)
  · rcases bind_eq_error fails with untrusted | ⟨_, fails⟩
    · exact isSenders_of_checkAddress untrusted
    · exact isSenders_of_body (map_eq_error fails)
  · exact isSenders_of_textRecord (map_eq_error fails)
  · rcases bind_eq_error fails with untrusted | ⟨_, fails⟩
    · exact isSenders_of_checkAddress untrusted
    · exact isSenders_of_body (map_eq_error fails)
  · rcases bind_eq_error fails with untrusted | ⟨_, fails⟩
    · exact isSenders_of_checkAddress untrusted
    · exact isSenders_of_body (map_eq_error fails)
  · cases fails
    exact isSenders_unrouted _ _

/-- A request that can only be a query: any `GET`, and a `POST` to where values are asked for. -/
def OnlyAsks (request : Request) : Prop :=
  request.method = "GET" ∨
    request.method = "POST" ∧ (segments request.path = ["value"] ∨ segments request.path = ["value", ""])

example : segments "/value" = ["value"] ∧ segments "/value/" = ["value", ""] := by decide

theorem isQuery_of_onlyAsks {gate : Gate} {request : Request} {command : Command}
    (asks : OnlyAsks request) (decided : gate.command request = .ok command) :
    command.isQuery = true := by
  rcases asks with get | posts
  · unfold Gate.command at decided
    rw [get] at decided
    split at decided
    case h_1 | h_2 =>
      cases decided
      rfl
    case h_3 =>
      split at decided
      · cases decided
      · cases decided
        rfl
    -- What is left is `POST`, and what no route takes.
    all_goals simp_all
  · rw [command_value posts] at decided
    obtain ⟨_, _, rfl⟩ := map_eq_ok decided
    rfl

/-- The records that a request carries, once it is not refused by itself. -/
def carried (gate : Gate) (request : Request) : List Record :=
  match gate.command request with
  | .ok command => command.records
  | .error _ => []

theorem serve_of_command {World : Type} {gate : Gate} {request : Request} {command : Command}
    (decided : gate.command request = .ok command) (backend : Backend World) :
    gate.serve backend request = command.perform backend := by
  rw [serve, decided]

theorem serve_allOrNothing (gate : Gate) (request : Request) :
    (gate.serve backend request).AllOrNothing := by
  unfold serve
  split
  · exact Command.perform_allOrNothing _
  · exact (Action.ReadsOnly.fail _).allOrNothing

theorem serve_failsOnly (gate : Gate) (request : Request) :
    (gate.serve backend request).FailsOnly Refusal.IsSenders := by
  unfold serve
  split
  · exact Command.perform_failsOnly _
  · rename_i refusal refused
    exact Action.FailsOnly.fail (isSenders_of_command refused)

/-- Nothing that is refused is answered as done. -/
theorem status_ne_of_refused {gate : Gate} {request : Request} {storage : MemoryStorage} {refusal : Refusal}
    (refused : (gate.serve backend request storage).result = .error refusal) : refusal.status ≠ 200 := by
  have senders := (serve_failsOnly gate request storage refusal refused).1
  intro done
  rw [done] at senders
  exact absurd senders (by decide)

theorem serve_readsOnly {gate : Gate} {request : Request} (asks : OnlyAsks request) :
    (gate.serve backend request).ReadsOnly := by
  unfold serve
  split
  · rename_i command decided
    exact Command.perform_readsOnly (isQuery_of_onlyAsks asks decided)
  · exact Action.ReadsOnly.fail _

theorem serve_frame {gate : Gate} {request : Request} {kind : Kind} {name : String}
    (storage : MemoryStorage) (unnamed : ¬Batch.Names (gate.carried request) kind name) :
    (gate.serve backend request storage).world.store.get? kind name =
      storage.store.get? kind name := by
  unfold serve
  unfold carried at unnamed
  cases decided : gate.command request with
  | ok command =>
    rw [decided] at unnamed
    exact Command.perform_frame storage unnamed
  | error refusal => rfl

/-! ## The response and what is left -/

/-- The status of the response is that of the outcome, compressed or not. -/
theorem status_handle {World : Type} (gate : Gate) (backend : Backend World) (request : Request)
    (world : World) :
    (gate.handle backend request world).1.status =
      (Response.ofOutcome gate.reader.key (gate.serve backend request world).result).status := by
  unfold handle
  dsimp only
  split
  · exact Response.status_compress _
  · rfl

theorem status_ofReply (key : Option String) (reply : Reply) :
    (Response.ofReply key reply).status = 200 := by
  cases reply <;> rfl

/-- The response has status 200 if the request is done, and else none that says that all went well. -/
theorem status_cases (gate : Gate) (request : Request) (storage : MemoryStorage) :
    let status := (gate.handle backend request storage).1.status
    (∃ reply, (gate.serve backend request storage).result = .ok reply ∧ status = 200) ∨
      status.isSuccess = false := by
  intro status
  have isStatus : status = _ := status_handle gate backend request storage
  cases outcome : (gate.serve backend request storage).result with
  | ok reply =>
    rw [outcome] at isStatus
    exact .inl ⟨reply, rfl, isStatus.trans (status_ofReply _ reply)⟩
  | error refusal =>
    have senders := (serve_failsOnly gate request storage refusal outcome).1
    rw [outcome] at isStatus
    have isRefusal : status = refusal.status := isStatus
    right
    rw [isRefusal, Status.isSuccess, Bool.and_eq_false_iff]
    exact .inr (decide_eq_false (Nat.not_lt.2 (Nat.le_trans (by decide) senders)))

/-- A request is done, with status 200, or it is the sender's fault that it is not; then nothing has
happened, to the store or to its file. Whoever only asks changes nothing either. An update changes what its
records name, each in its kind, and nothing else. -/
theorem handle_effects (gate : Gate) (request : Request) (storage : MemoryStorage) :
    let response := (gate.handle backend request storage).1
    let after := (gate.handle backend request storage).2.1
    (response.status ≠ 200 → after = storage) ∧
      (OnlyAsks request → after = storage) ∧
      (∀ kind name, ¬Batch.Names (gate.carried request) kind name →
        after.store.get? kind name = storage.store.get? kind name) ∧
      (response.status = 200 ∨ 400 ≤ response.status ∧ response.status < 500) := by
  intro response after
  refine ⟨?_, ?_, ?_, ?_⟩
  · intro notDone
    change (gate.handle backend request storage).1.status ≠ 200 at notDone
    rw [status_handle] at notDone
    cases outcome : (gate.serve backend request storage).result with
    | error refusal => exact serve_allOrNothing gate request storage refusal outcome
    | ok reply =>
      rw [outcome] at notDone
      exact absurd (status_ofReply _ reply) notDone
  · intro asks
    exact serve_readsOnly asks storage
  · intro kind name unnamed
    exact serve_frame storage unnamed
  · change (gate.handle backend request storage).1.status = 200 ∨
      400 ≤ (gate.handle backend request storage).1.status ∧
        (gate.handle backend request storage).1.status < 500
    rw [status_handle]
    cases outcome : (gate.serve backend request storage).result with
    | error refusal => exact .inr (serve_failsOnly gate request storage refusal outcome)
    | ok reply => exact .inl (status_ofReply _ reply)

end Gate

end Telemetry
