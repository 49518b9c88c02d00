import Telemetry.Proofs.Collector.Updates
import Telemetry.Proofs.Intake
import Telemetry.Proofs.Store.Repetition

/-!
# A batch over a network that loses messages

The attempts to send a batch carry the same message, and the collector makes the same of it each time: it
takes all of the batch or nothing, whatever it thinks of the address, the path and the signature. A message
that is lost makes the sender try again, and so does a lost answer to a message that was handled; the sender
cannot tell the two apart. So the batch is taken once for every message that is answered with status 200,
whether the answer gets back or not.
-/

namespace Telemetry

/-! ## What is written of a batch -/

namespace Record

/-- A valid record asks for the same before it has been written. -/
theorem asked?_asWritten {record : Record}
    (valid : record.asWritten.hasKnownType = true → record.asWritten.Valid) :
    record.asWritten.asked? = record.asked? := by
  obtain ⟨id, type, delta, value⟩ := record
  rcases type with kind | ⟨name, nameOfNone⟩
  · cases kind with
    | counter => rfl
    | gauge =>
      obtain ⟨written, validated⟩ := valid rfl
      cases written with
      | counter delta => cases type_of_validate_eq_ok validated
      | gauge reading =>
        obtain ⟨_, _, _, number, _⟩ := validate_eq_ok_gauge_iff.1 validated
        exact congrArg (Option.map _) (number.trans (Option.filter_eq_some_iff.1 number).1.symm)
  · rfl

end Record

/-- The updates of a batch whose records are valid once they have been written. -/
theorem Batch.filterMap_asked?_asWritten {batch : Batch}
    (valid : ∀ record ∈ known (batch.map Record.asWritten), record.Valid) :
    (batch.map Record.asWritten).filterMap Record.asked? = batch.filterMap Record.asked? := by
  rw [List.filterMap_map]
  apply List.filterMap_congr
  intro record listed
  apply Record.asked?_asWritten
  intro hasKnown
  exact valid _ (List.mem_filter.2 ⟨List.mem_map_of_mem listed, hasKnown⟩)

/-! ## What the collector makes of the message -/

namespace Gate

theorem read_of_body {Datum : Type} {read : Bytes → Bool → Option String → Except PayloadError Datum}
    {request : Request} {datum : Datum} (carried : body read request = .ok datum) :
    read request.body request.headers.isGzipped (request.headers.firstText? Protocol.signatureHeader) =
      .ok datum := by
  obtain ⟨_, _, afterType⟩ := bind_eq_ok carried
  obtain ⟨_, _, afterDeclared⟩ := bind_eq_ok afterType
  obtain ⟨_, _, afterLength⟩ := bind_eq_ok afterDeclared
  cases outcome : read request.body request.headers.isGzipped
      (request.headers.firstText? Protocol.signatureHeader) with
  | error cause =>
    rw [outcome] at afterLength
    cases afterLength
  | ok found =>
    rw [outcome] at afterLength
    cases afterLength
    rfl

/-- A message that is no text and from which nothing but a certain batch can be read asks for nothing but to
take this batch. -/
theorem command_eq_updateBatch {gate : Gate} {request : Request} {batch : Batch} {command : Command}
    (isPost : request.method = "POST") (noText : request.headers.allowsType "text/plain" = false)
    (noRecord : ∀ record, body gate.reader.record request ≠ .ok record)
    (onlyBatch : ∀ records, body gate.reader.records request = .ok records → records = batch)
    (decided : gate.command request = .ok command) : command = .updateBatch batch := by
  have noMap (turn : Record → Command) :
      (body gate.reader.record request).map turn ≠ .ok command := by
    intro mapped
    obtain ⟨record, read, _⟩ := map_eq_ok mapped
    exact noRecord record read
  unfold Gate.command at decided
  split at decided
  -- What is asked for by `GET` is not in question.
  case h_1 | h_2 | h_3 => simp_all
  case h_4 | h_5 => exact absurd decided (noMap _)
  case h_6 | h_7 =>
    obtain ⟨_, _, decided⟩ := bind_eq_ok decided
    exact absurd decided (noMap _)
  case h_8 =>
    obtain ⟨_, read, _⟩ := map_eq_ok decided
    obtain ⟨_, isText, _⟩ := bind_eq_ok read
    rw [checkType, noText] at isText
    cases isText
  case h_9 | h_10 =>
    obtain ⟨_, _, decided⟩ := bind_eq_ok decided
    obtain ⟨records, read, rfl⟩ := map_eq_ok decided
    rw [onlyBatch records read]
  case h_11 => cases decided

/-- A command to take a batch that is done has found the batch valid. -/
theorem valid_of_done {gate : Gate} {request : Request} {batch : Batch} {storage : MemoryStorage} {reply : Reply}
    (decides : ∀ command, gate.command request = .ok command → command = .updateBatch batch)
    (nonempty : batch ≠ []) (done : (gate.serve MemoryStorage.backend request storage).result = .ok reply) :
    gate.carried request = batch ∧ ∀ record ∈ Batch.known batch, record.Valid := by
  unfold serve at done
  unfold carried
  cases decided : gate.command request with
  | error refusal =>
    rw [decided] at done
    cases done
  | ok command =>
    rw [decided] at done
    cases decides command decided
    obtain ⟨_, updated, _⟩ := Action.exists_of_bind_pure_eq_ok _ done
    rw [Service.updateBatch_result_of_ne_nil nonempty] at updated
    cases taken : storage.store.updateBatch batch with
    | error cause =>
      rw [taken] at updated
      cases updated
    | ok next => exact ⟨rfl, (Store.updateBatch_eq_ok taken).1⟩

end Gate

namespace Intake

variable {intake : Intake} {post : Post} {batch : Batch}

/-- The collector takes all of the batch, with status 200, or nothing. -/
theorem answer_batch (decides : ∀ command, intake.gate.command post.request = .ok command →
      command = .updateBatch (batch.map Record.asWritten)) (nonempty : batch ≠ []) :
    let response := (intake.answer post).1
    let after := (intake.answer post).2.1
    (response.status = 200 →
      intake.storage.store.applyAll (batch.filterMap Record.asked?) = .ok after.storage.store) ∧
    (response.status ≠ 200 → after.storage.store = intake.storage.store ∧ response.status.isSuccess = false) := by
  intro response after
  have applied : intake.storage.store.applyAll (intake.gate.updates post.request response) =
      .ok after.storage.store := (Gate.applies_handle intake.gate post.request intake.storage).applyAll
  unfold Gate.updates at applied
  rcases Gate.status_cases intake.gate post.request intake.storage with ⟨reply, done, isDone⟩ | notSuccess
  · have accepted : response.status = 200 := isDone
    have written : batch.map Record.asWritten ≠ [] := fun none => nonempty (List.map_eq_nil_iff.1 none)
    obtain ⟨carries, valid⟩ := Gate.valid_of_done decides written done
    rw [if_pos accepted, carries, Batch.filterMap_asked?_asWritten valid] at applied
    exact ⟨fun _ => applied, fun notAccepted => absurd accepted notAccepted⟩
  · have notAccepted : response.status ≠ 200 := by
      intro accepted
      have isSuccess : response.status.isSuccess = true := by rw [accepted]; rfl
      exact absurd (isSuccess.symm.trans notSuccess) (by decide)
    rw [if_neg notAccepted] at applied
    exact ⟨fun accepted => absurd accepted notAccepted, fun _ => ⟨(Except.ok.inj applied).symm, notSuccess⟩⟩

/-! ## What the sender puts into it -/

/-- From the message with a batch nothing can be read but the batch, as it is written. -/
theorem decides_of_postOf? {gate : Gate} {sender : Sender} (seals : sender.writer.SealsFor gate.reader)
    {entropy : Entropy} (sent : postOf? sender entropy batch = some post) (command : Command)
    (decided : gate.command post.request = .ok command) :
    command = .updateBatch (batch.map Record.asWritten) := by
  unfold postOf? at sent
  cases framed : sender.batchFrame entropy batch with
  | error cause =>
    rw [framed] at sent
    cases sent
  | ok frame =>
    rw [framed] at sent
    obtain ⟨url, isUrl, rfl⟩ := Option.map_eq_some_iff.1 sent
    have written : sender.writer.frame entropy (Record.batchBytes batch) = .ok frame := framed
    refine Gate.command_eq_updateBatch rfl ?_ ?_ ?_ decided
    · refine (sender.allowsType_headers_eq frame frame.body _).trans ?_
      decide
    · intro record carried
      have read := Gate.read_of_body carried
      rw [Post.request, sender.isGzipped_headers frame frame.body] at read
      cases (Record.ofBytes?_batchBytes batch).symm.trans (seals.ofBytes?_eq_some written read)
    · intro records carried
      have read := Gate.read_of_body carried
      rw [Post.request, sender.isGzipped_headers frame frame.body] at read
      cases (Record.batchOfBytes?_batchBytes batch).symm.trans (seals.ofBytes?_eq_some written read)
      rfl

end Intake

/-! ## Attempts -/

theorem Sending.status_of_isAccepted {post : Post} {status : Status} {answer : Except SendError (Status × Bytes)}
    (accepted : isAccepted ⟨post, some status, answer⟩ = true) : status = 200 :=
  Option.some.inj (eq_of_beq accepted)

namespace LossyNetwork

variable {network : LossyNetwork} {post : Post} {batch : Batch}

/-- A message is lost, or it is handled and its answer arrives or is lost. -/
theorem sending_cases (network : LossyNetwork) (post : Post) :
    let response := (network.intake.answer post).1
    network.sending post = ⟨post, none, .error .noAnswer⟩ ∨
      network.sending post = ⟨post, some response.status, .ok (response.status, response.body)⟩ ∨
      network.sending post = ⟨post, some response.status, .error .noAnswer⟩ := by
  intro response
  unfold sending
  cases network.transits.head?.getD .answered with
  | lost => exact .inl rfl
  | answered => exact .inr (.inl rfl)
  | answerLost => exact .inr (.inr rfl)

theorem post_sending (network : LossyNetwork) (post : Post) : (network.sending post).post = post := by
  rcases sending_cases network post with same | same | same <;> rw [same]

/-- A message that is answered with status 200 is a success for the sender, unless the answer is lost. -/
theorem outcome_of_isAccepted {answer : Status × Bytes} (accepted : (network.sending post).isAccepted = true)
    (answered : (network.sending post).answer = .ok answer) : (network.sending post).outcome = .ok () := by
  rcases sending_cases network post with same | same | same
  · rw [same] at accepted
    cases accepted
  · rw [same] at accepted ⊢
    exact if_pos (by rw [Sending.status_of_isAccepted accepted]; rfl)
  · rw [same] at answered
    cases answered

/-- An attempt tells the sender what the message comes to. -/
theorem attempt_apply (network : LossyNetwork) (post : Post) :
    (Sender.attempt exchange (some post) network).result = (network.sending post).outcome ∧
      (Sender.attempt exchange (some post) network).world = (exchange post network).world := by
  have exchanged : (exchange post network).result = (network.sending post).answer := rfl
  unfold Sending.outcome
  cases answer : (network.sending post).answer with
  | error cause =>
    have failed : Sender.attempt exchange (some post) network = _ :=
      Action.bind_apply_error (exchanged.trans answer)
    rw [failed]
    exact ⟨rfl, rfl⟩
  | ok found =>
    have went : Sender.attempt exchange (some post) network = _ :=
      Action.bind_apply_ok (exchanged.trans answer)
    rw [went]
    exact ⟨rfl, rfl⟩

/-- An attempt makes the updates of the batch if the message is answered with status 200, and else it fails and
makes none. -/
theorem makesAllOrNone_attempt (decides : ∀ command, network.intake.gate.command post.request = .ok command →
      command = .updateBatch (batch.map Record.asWritten)) (nonempty : batch ≠ []) :
    MakesAllOrNone (Sender.attempt exchange (some post)) (fun network => network.intake.storage.store)
      (fun network => (network.sending post).isAccepted) (batch.filterMap Record.asked?) network := by
  obtain ⟨result, world⟩ := attempt_apply network post
  obtain ⟨taken, untaken⟩ := Intake.answer_batch decides nonempty
  have after : (exchange post network).world.intake =
    if (network.sending post).status.isSome then (network.intake.answer post).2.1 else network.intake := rfl
  constructor
  · intro accepted
    show network.intake.storage.store.applyAll _ = .ok (Sender.attempt _ _ network).world.intake.storage.store
    rw [world, after]
    rcases sending_cases network post with lost | answered | answerLost
    · rw [lost] at accepted
      cases accepted
    · rw [answered] at accepted ⊢
      exact taken (Sending.status_of_isAccepted accepted)
    · rw [answerLost] at accepted ⊢
      exact taken (Sending.status_of_isAccepted accepted)
  · intro notAccepted
    show (Sender.attempt _ _ network).world.intake.storage.store = network.intake.storage.store ∧ _
    rw [result, world, after]
    rcases sending_cases network post with lost | answered | answerLost
    · rw [lost]
      exact ⟨rfl, .noAnswer, rfl⟩
    · rw [answered] at notAccepted ⊢
      obtain ⟨unchanged, notSuccess⟩ := untaken fun status => by
        rw [status] at notAccepted
        cases notAccepted
      refine ⟨unchanged, .refused _ _, if_neg ?_⟩
      rw [notSuccess]
      exact Bool.false_ne_true
    · rw [answerLost] at notAccepted ⊢
      obtain ⟨unchanged, _⟩ := untaken fun status => by
        rw [status] at notAccepted
        cases notAccepted
      exact ⟨unchanged, .noAnswer, rfl⟩

/-- No attempt changes how requests are checked. -/
theorem gate_attempt (network : LossyNetwork) (post : Post) :
    (Sender.attempt exchange (some post) network).world.intake.gate = network.intake.gate := by
  have after : (exchange post network).world.intake =
    if (network.sending post).status.isSome then (network.intake.answer post).2.1 else network.intake := rfl
  rw [(attempt_apply network post).2, after]
  split <;> rfl

end LossyNetwork

/-! ## Delivery -/

/-- Why a batch is not sent at all. -/
inductive Sender.CannotSend (sender : Sender) (entropy : Entropy) (batch : Batch) : SendError → Prop
  | nothing (none : batch = []) : CannotSend sender entropy batch .emptyBatch
  | unframed {cause : PayloadError} (some : batch ≠ [])
      (fails : sender.writer.frame entropy (Record.batchBytes batch) = .error cause) :
      CannotSend sender entropy batch (.encode cause)
  | noAddress {frame : Frame} (some : batch ≠ [])
      (framed : sender.writer.frame entropy (Record.batchBytes batch) = .ok frame)
      (noUrl : Url.ofText? (sender.base ++ Protocol.batchPath) = none) :
      CannotSend sender entropy batch .badAddress

namespace Sender.CannotSend

variable {sender : Sender} {entropy : Entropy} {batch : Batch} {cause : SendError}

/-- There is no use in another attempt. -/
theorem isFinal (cannot : sender.CannotSend entropy batch cause) : cause.isRetriable = false := by
  cases cannot <;> rfl

/-- A batch with a message can be sent. -/
theorem absurd_of_postOf? {post : Post} (nonempty : batch ≠ [])
    (message : Intake.postOf? sender entropy batch = some post) : ¬ sender.CannotSend entropy batch cause := by
  intro cannot
  cases cannot with
  | nothing none => exact nonempty none
  | unframed _ fails =>
    have noFrame : sender.batchFrame entropy batch = _ := fails
    rw [Intake.postOf?, noFrame] at message
    cases message
  | noAddress _ framed noUrl =>
    have frame : sender.batchFrame entropy batch = _ := framed
    rw [Intake.postOf?, frame] at message
    simp only [Sender.post?, noUrl] at message
    cases message

end Sender.CannotSend

/-- What it comes to that a batch has been sent through a network with the given messages, all of them to the
one collector that is written to by no one else. -/
structure Delivered (network : LossyNetwork) (sender : Sender) (entropy : Entropy) (batch : Batch)
    (sendings : List Sending) (result : Except SendError Unit) (after : LossyNetwork) : Prop where
  sent : after.sent = network.sent ++ sendings
  /-- There is a message at all, unless the batch is empty, cannot be framed or has nowhere to go. -/
  unsent : sendings = [] ↔ ∃ cause, sender.CannotSend entropy batch cause ∧ result = .error cause
  /-- All messages are the same, with the same body and the same signature. -/
  same : ∀ sending ∈ sendings, some sending.post = Intake.postOf? sender entropy batch
  few : sendings.length ≤ sender.policy.attempts
  /-- Another message follows only one that has failed in a way that may pass. -/
  goesOn : ∀ sending ∈ sendings.dropLast, ∃ cause, sending.outcome = .error cause ∧ cause.isRetriable = true
  last : ∀ sending, sendings.getLast? = some sending → result = sending.outcome
  /-- The sender stops at a failure that may pass only when no attempt is left. -/
  givesUp : ∀ cause, result = .error cause → cause.isRetriable = true → sendings.length = sender.policy.attempts
  /-- The whole batch has been taken once for every message that was answered with status 200. -/
  taken : network.intake.storage.store.applyAll
      (List.replicate (sendings.countP Sending.isAccepted) (batch.filterMap Record.asked?)).flatten =
    .ok after.intake.storage.store
  succeeds : result = .ok () → 1 ≤ sendings.countP Sending.isAccepted
  gauges : 1 ≤ sendings.countP Sending.isAccepted →
    ∃ once, network.intake.storage.store.applyAll (batch.filterMap Record.asked?) = .ok once ∧
      after.intake.storage.store.gauges = once.gauges
  counters : ∀ name, (after.intake.storage.store.total name).toInt =
    (network.intake.storage.store.total name).toInt +
      sendings.countP Sending.isAccepted * Store.increments name (batch.filterMap Record.asked?)
  /-- Unless an answer to a handled message was lost, the sender knows whether the batch has been taken. -/
  tells : (∀ sending ∈ sendings, sending.status.isSome → ∃ answer, sending.answer = .ok answer) →
    (result = .ok () → sendings.countP Sending.isAccepted = 1) ∧
      ∀ cause, result = .error cause → sendings.countP Sending.isAccepted = 0

namespace Delivered

variable {network : LossyNetwork} {sender : Sender} {entropy : Entropy} {batch : Batch}

/-- Nothing comes of a batch that cannot be sent. -/
theorem of_nothing {cause : SendError} (cannot : sender.CannotSend entropy batch cause) :
    Delivered network sender entropy batch [] (.error cause) network where
  sent := (List.append_nil _).symm
  unsent := ⟨fun _ => ⟨cause, cannot, rfl⟩, fun _ => rfl⟩
  same := nofun
  few := Nat.zero_le _
  goesOn := nofun
  last := nofun
  givesUp := by
    intro other fails retriable
    cases fails
    rw [cannot.isFinal] at retriable
    cases retriable
  taken := rfl
  succeeds := nofun
  gauges := nofun
  counters := by simp
  tells := fun _ => ⟨nofun, fun _ _ => rfl⟩

/-- What the attempts to send a message come to, from the networks that they start in. -/
theorem of_retried {terms : RetryTerms LossyNetwork SendError} {post : Post}
    {starts : List LossyNetwork} {result : Except SendError Unit} {after : LossyNetwork} (nonempty : batch ≠ [])
    (message : Intake.postOf? sender entropy batch = some post)
    (waits : ∀ delay world, terms.wait delay world = world) (passing : terms.isRetriable = SendError.isRetriable)
    (retried : Retried terms sender.policy (Sender.attempt LossyNetwork.exchange (some post))
      (fun network => network.intake.storage.store) (fun network => (network.sending post).isAccepted)
      (batch.filterMap Record.asked?) network starts result after) :
    Delivered network sender entropy batch (starts.map (LossyNetwork.sending · post)) result after := by
  have outcome (start : LossyNetwork) : (start.sending post).outcome =
      (Sender.attempt LossyNetwork.exchange (some post) start).result := (start.attempt_apply post).1.symm
  have count : (starts.map (LossyNetwork.sending · post)).countP Sending.isAccepted =
      starts.countP fun start => (start.sending post).isAccepted := List.countP_map
  constructor
  case sent =>
    refine retried.attempts.map_starts waits fun start => ?_
    rw [(start.attempt_apply post).2]
    rfl
  case unsent =>
    obtain ⟨start, lastStart, _⟩ := retried.last
    have some : starts ≠ [] := by
      rintro rfl
      cases lastStart
    constructor
    · intro none
      exact absurd (List.map_eq_nil_iff.1 none) some
    · rintro ⟨cause, cannot, _⟩
      exact absurd cannot (Sender.CannotSend.absurd_of_postOf? nonempty message)
  case same =>
    intro sending member
    obtain ⟨start, _, rfl⟩ := List.mem_map.1 member
    rw [start.post_sending, message]
  case few =>
    rw [List.length_map]
    exact retried.few
  case goesOn =>
    intro sending member
    rw [← List.map_dropLast] at member
    obtain ⟨start, isStart, rfl⟩ := List.mem_map.1 member
    rw [outcome, ← passing]
    exact retried.goesOn start isStart
  case last =>
    intro sending isLast
    rw [List.getLast?_map] at isLast
    obtain ⟨start, lastStart, ends⟩ := retried.last
    rw [lastStart] at isLast
    cases isLast
    rw [outcome, ends]
  case givesUp =>
    rw [List.length_map, ← passing]
    exact retried.givesUp
  case taken =>
    rw [count]
    exact retried.made
  case succeeds =>
    rw [count]
    exact retried.succeeds ()
  case gauges =>
    rw [count]
    intro positive
    obtain ⟨once, applied⟩ := Store.exists_applyAll_of_replicate positive retried.made
    exact ⟨once, applied, Store.gauges_applyAll_replicate positive retried.made applied⟩
  case counters =>
    rw [count]
    exact fun name => Store.total_applyAll_replicate name retried.made
  case tells =>
    rw [count]
    intro answered
    have succeed (start : LossyNetwork) (member : start ∈ starts)
        (accepted : (start.sending post).isAccepted = true) :
        ∃ done, (Sender.attempt LossyNetwork.exchange (some post) start).result = .ok done := by
      have handled : (start.sending post).status = some 200 := eq_of_beq accepted
      obtain ⟨answer, isAnswer⟩ :=
        answered (start.sending post) (List.mem_map_of_mem member) (by rw [handled]; rfl)
      exact ⟨(), (outcome start).symm.trans (LossyNetwork.outcome_of_isAccepted accepted isAnswer)⟩
    obtain ⟨once, never⟩ := retried.tells succeed
    exact ⟨once (), never⟩

end Delivered

/-- A batch that is sent through a network which loses messages and answers is taken by the collector once for
every message that is answered with status 200, and each time as a whole. A batch that has a message is sent at
least once. The messages are the same, and they stop as soon as one is answered with success or fails for good.
The sender succeeds only if the batch has been taken; if no answer to a handled message is lost, it succeeds
exactly if it has, and that only once. Sender and collector need not agree on more than how the batch is
sealed. -/
theorem LossyNetwork.delivers (network : LossyNetwork) (sender : Sender) (entropy : Entropy) (batch : Batch)
    (seals : sender.writer.SealsFor network.intake.gate.reader) :
    let outcome := sender.sendBatch LossyNetwork.exchange (fun _ network => network) entropy batch network
    ∃ sendings, Delivered network sender entropy batch sendings outcome.result outcome.world := by
  intro outcome
  unfold outcome Sender.sendBatch
  by_cases nonempty : batch = []
  · rw [if_pos (by simpa using nonempty)]
    exact ⟨[], Delivered.of_nothing (.nothing nonempty)⟩
  rw [if_neg (by simpa using nonempty)]
  cases framed : sender.batchFrame entropy batch with
  | error cause => exact ⟨[], Delivered.of_nothing (.unframed nonempty framed)⟩
  | ok frame =>
    cases posted : sender.post? Protocol.batchPath frame with
    | none =>
      have noUrl : Url.ofText? (sender.base ++ Protocol.batchPath) = none := Option.map_eq_none_iff.1 posted
      have ends : (Sender.terms (fun _ network => network) Protocol.batchPath).run sender.policy
          (Sender.attempt LossyNetwork.exchange none) network = _ := RetryTerms.runFrom_of_final rfl rfl
      dsimp only [Sender.deliver]
      rw [posted, ends]
      exact ⟨[], Delivered.of_nothing (.noAddress nonempty framed noUrl)⟩
    | some post =>
      have message : Intake.postOf? sender entropy batch = some post := by
        rw [Intake.postOf?, framed]
        exact posted
      let sameGate (other : LossyNetwork) : Prop := other.intake.gate = network.intake.gate
      have waits (delay : Milliseconds) (other : LossyNetwork) :
          (Sender.terms (fun _ network => network) Protocol.batchPath).wait delay other = other := rfl
      have each (other : LossyNetwork) (same : sameGate other) :=
        makesAllOrNone_attempt (same ▸ Intake.decides_of_postOf? seals message) nonempty
      have keeps (other : LossyNetwork) (same : sameGate other) := (other.gate_attempt post).trans same
      obtain ⟨starts, retried⟩ := exists_retried sameGate waits each keeps sender.policy rfl
      dsimp only [Sender.deliver]
      rw [posted]
      exact ⟨_, Delivered.of_retried nonempty message (fun _ _ => rfl) rfl retried⟩

set_option maxRecDepth 4000 in
/-- Of a batch with two records the first message is lost, and then the answer to the second one, so the batch
is taken twice. -/
theorem LossyNetwork.delivers_twice :
    let intake : Intake := ⟨⟨⟨some "secret", none⟩, none⟩, MemoryStorage.fresh none Disk.empty⟩
    let network : LossyNetwork := { intake, transits := [.lost, .answerLost] }
    let sender : Sender := { base := "http://localhost:8080", writer := ⟨some "secret", none⟩ }
    let delta : Count := ⟨2, by decide, by decide⟩
    let batch : Batch := [.gauge "Alloc" ⟨0x3ff8000000000000⟩, .counter "PollCount" delta]
    let outcome := sender.sendBatch exchange (fun _ network => network) id batch network
    (outcome.world.intake.storage.store.total "PollCount").toInt = 4 ∧
      ∃ sendings, sendings.countP Sending.isAccepted = 2 ∧
        Delivered network sender id batch sendings outcome.result outcome.world := by
  intro intake network sender delta batch outcome
  have total : (outcome.world.intake.storage.store.total "PollCount").toInt = 4 := by decide +kernel
  have before : (network.intake.storage.store.total "PollCount").toInt = 0 := by decide +kernel
  have each : Store.increments "PollCount" (batch.filterMap Record.asked?) = 2 := by decide +kernel
  obtain ⟨sendings, delivered⟩ := network.delivers sender id batch (.inl ⟨rfl, rfl⟩)
  have grown := delivered.counters "PollCount"
  rw [total, before, each] at grown
  exact ⟨total, sendings, by omega, delivered⟩

end Telemetry
