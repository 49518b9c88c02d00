import Telemetry.Intake
import Telemetry.Proofs.Agent.Readings
import Telemetry.Proofs.Agent.Sender
import Telemetry.Proofs.Collector.Effects
import Telemetry.Proofs.Net.Subnet
import Telemetry.Proofs.Payload.Frame
import Telemetry.Proofs.Service.Batching

/-!
# From readings to the store

What an agent has read arrives in the store of a collector, if the two are set up for each other: they agree
on their keys, the collector trusts the address of the agent's machine, and the agent has the address of the
collector.
-/

namespace Telemetry

/-- A sender and a collector that are set up for each other. -/
structure Sender.Suits (sender : Sender) (gate : Gate) : Prop where
  keys : sender.writer.Agrees gate.reader
  /-- Updates may come from anywhere, or from a subnet that the sender's machine is in. -/
  address : ∀ subnet, gate.trustedSubnet = some subnet →
    ∃ address : Address, sender.origin = some address.text ∧ subnet.contains address = true
  route : sender.Reaches Protocol.batchPath

/-! ## What the collector makes of the message -/

/-- The address of a sender is trusted by the collectors that it is set up for. -/
theorem Sender.Suits.checkAddress {sender : Sender} {gate : Gate} (suits : sender.Suits gate)
    (frame : Frame) (body : Bytes) : gate.checkAddress ((sender.headers frame).declaring body) = .ok () := by
  unfold Gate.checkAddress
  cases trusted : gate.trustedSubnet with
  | none => rfl
  | some subnet =>
    obtain ⟨address, known, contained⟩ := suits.address subnet trusted
    have claimed : ((sender.headers frame).declaring body).firstText? Protocol.addressHeader =
        some address.text := by
      rw [← known]
      apply firstText?_addressHeader
      intro text isText
      rw [known] at isText
      cases isText
      exact address.isVisible_text
    dsimp only
    rw [claimed, Subnet.allows_text contained]
    rfl

/-- A body that is not too long is read if its frame is. -/
theorem Gate.body_headers {Datum : Type} {read : Bytes → Bool → Option String → Except PayloadError Datum}
    {datum : Datum} (sender : Sender) {frame : Frame} {bytes : Bytes} (method path : String)
    (visible : ∀ signature, frame.signature = some signature → Text.IsVisible signature)
    (short : bytes.length ≤ longestBody) (framed : read bytes true frame.signature = .ok datum) :
    body read ⟨method, path, (sender.headers frame).declaring bytes, bytes⟩ = .ok datum := by
  have type : checkType ((sender.headers frame).declaring bytes) "application/json" = .ok () :=
    if_pos (sender.allowsType_headers frame bytes)
  have length : checkLength bytes = .ok () := if_neg (Nat.not_lt.2 short)
  unfold body
  dsimp only
  rw [type, sender.checkDeclaredLength_headers frame bytes short, length, sender.isGzipped_headers frame bytes,
    sender.firstText?_signatureHeader frame bytes visible, framed]
  rfl

/-- A request to the path of batches is a command to take the batch in it. -/
theorem Gate.command_batchPath {gate : Gate} {headers : Headers} {bytes : Bytes} {batch : Batch}
    (trusted : gate.checkAddress headers = .ok ())
    (read : body gate.reader.records ⟨"POST", Protocol.batchPath, headers, bytes⟩ = .ok batch) :
    gate.command ⟨"POST", Protocol.batchPath, headers, bytes⟩ = .ok (.updateBatch batch) := by
  have path : segments Protocol.batchPath = ["updates", ""] := by decide
  have posts : PostsTo "updates" ⟨"POST", Protocol.batchPath, headers, bytes⟩ := ⟨rfl, .inr path⟩
  rw [command_updates posts, trusted, read]
  rfl

/-- A batch that the store takes is taken by the collector. -/
theorem Command.perform_updateBatch {storage : MemoryStorage} {batch : Batch} {final : Store}
    (nonempty : batch ≠ []) (updated : storage.store.updateBatch batch = .ok final) :
    let outcome := (updateBatch batch).perform MemoryStorage.backend storage
    (∃ reply, outcome.result = .ok reply) ∧ outcome.world.store = final := by
  have taken : (Service.updateBatch MemoryStorage.backend batch storage).result = .ok () := by
    rw [Service.updateBatch_result_of_ne_nil nonempty, updated]
    rfl
  have result : ((Service.updateBatch MemoryStorage.backend batch).mapCause Refusal.service storage).result =
      .ok () := by
    rw [Action.mapCause, taken]
    rfl
  have world : ((Service.updateBatch MemoryStorage.backend batch).mapCause Refusal.service storage).world =
      storage.settle (.ok final) := by
    rw [← updated]
    exact Service.updateBatch_world_of_ne_nil nonempty
  dsimp only [perform]
  rw [Action.bind_apply_ok result, world]
  exact ⟨⟨_, rfl⟩, MemoryStorage.settle_ok_store storage final⟩

namespace Intake

/-- A message with a batch that the store takes is answered with success, and the store is what the batch
makes of it. -/
theorem answer_of_command {intake : Intake} {post : Post} {batch : Batch} {final : Store}
    (command : intake.gate.command post.request = .ok (.updateBatch batch)) (nonempty : batch ≠ [])
    (updated : intake.storage.store.updateBatch batch = .ok final) :
    (intake.answer post).1.status = 200 ∧ (intake.answer post).2.1.storage.store = final := by
  obtain ⟨⟨reply, replied⟩, stored⟩ := Command.perform_updateBatch nonempty updated
  have served := Gate.serve_of_command command MemoryStorage.backend
  constructor
  · have status := Gate.status_handle intake.gate MemoryStorage.backend post.request intake.storage
    rw [served, replied] at status
    exact status.trans (Gate.status_ofReply _ reply)
  · have world : (intake.answer post).2.1.storage =
        (intake.gate.serve MemoryStorage.backend post.request intake.storage).world := rfl
    rw [world, served, stored]

/-- The batch of a sender arrives at a collector that it is set up for, however the message is compressed, if
that is short enough: it is answered with success, and the store is what the batch makes of it. -/
theorem exists_postOf? {intake : Intake} {sender : Sender} (suits : sender.Suits intake.gate)
    (entropy : Entropy) {batch : Batch} {final : Store} (nonempty : batch ≠ [])
    (finite : ∀ record ∈ batch, record.IsFinite)
    (updated : intake.storage.store.updateBatch batch = .ok final) :
    ∃ post, postOf? sender entropy batch = some post ∧
      ∀ body, Gzip.unpack? body = Gzip.unpack? post.body → body.length ≤ Gate.longestBody →
        (intake.answer { post with body }).1.status = 200 ∧
          (intake.answer { post with body }).2.1.storage.store = final := by
  obtain ⟨frame, framed, read⟩ := suits.keys.exists_batchFrame entropy finite
  obtain ⟨url, isUrl, path⟩ := suits.route
  refine ⟨⟨url, sender.headers frame, frame.body⟩, ?_, ?_⟩
  · have sent : sender.batchFrame entropy batch = .ok frame := framed
    rw [postOf?, sent]
    dsimp only
    rw [Sender.post?, isUrl]
    rfl
  · intro body same short
    rw [← FrameReader.records_congr same] at read
    have carried := Gate.body_headers sender "POST" Protocol.batchPath
      (fun signature => FrameWriter.isVisible_signature framed) short read
    have command := Gate.command_batchPath (suits.checkAddress frame body) carried
    apply answer_of_command _ nonempty updated
    rw [Post.request, path]
    exact command

/-- What an agent has read, in any history of samples under names that are not empty, arrives in the store
of a collector that it is set up for: the message with its batch, compressed in whatever way, is answered
with success unless it is too long. Then the store has the agent's readings in place of its own, the polls
are added to their counter, and nothing else has changed. -/
theorem readings_arrive (intake : Intake) (sender : Sender) (entropy : Entropy)
    (history : List (Sample × Bool)) (named : ∀ step ∈ history, ∀ reading ∈ step.1, reading.1 ≠ "")
    (suits : sender.Suits intake.gate) :
    let readings := Readings.ofHistory history
    let store := intake.storage.store
    readings.polls < 2 ^ 63 →
    Count.Fits ((store.total Readings.pollCounter).toInt + readings.polls) →
    ∃ post, postOf? sender entropy readings.batch = some post ∧
      ∀ body, Gzip.unpack? body = Gzip.unpack? post.body → body.length ≤ Gate.longestBody →
        let (response, after, _) := intake.answer { post with body }
        let final := after.storage.store
        response.status = 200 ∧
        (∀ name, final.gauges.get? name = (readings.gauges.get? name).or (store.gauges.get? name)) ∧
        (∃ total, final.counters.get? Readings.pollCounter = some total ∧
          total.toInt = (store.total Readings.pollCounter).toInt + readings.polls) ∧
        ∀ name, name ≠ Readings.pollCounter →
          final.counters.get? name = store.counters.get? name := by
  intro readings store inRange room
  have allValid : readings.AllValid := Readings.allValid_ofHistory named
  have nonempty : readings.batch ≠ [] := List.append_ne_nil_of_right_ne_nil _ (List.cons_ne_nil _ _)
  obtain ⟨final, updated, described⟩ := Readings.updateBatch_batch allValid inRange room
  obtain ⟨post, sent, answered⟩ := exists_postOf? suits entropy nonempty
    (fun record => Readings.isFinite_of_mem_batch allValid) updated
  refine ⟨post, sent, ?_⟩
  intro body same short
  obtain ⟨status, stored⟩ := answered body same short
  dsimp only
  rw [stored]
  exact ⟨status, described⟩

/-- An agent in a trusted subnet that signs and seals reports a reading and a poll; what it could not measure
is left out. -/
theorem readings_arrive_sealed :
    let key := PrivateKey.ofMersenne
    let subnet : Subnet := ⟨.v4 0x0a000000#32, 8, by decide⟩
    let intake : Intake :=
      ⟨⟨⟨some "secret", some key⟩, some subnet⟩, MemoryStorage.fresh none Disk.empty⟩
    let sender : Sender :=
      { base := "http://localhost:8080"
        writer := ⟨some "secret", some key.publicKey⟩
        origin := some (Address.v4 0x0a010203#32).text }
    let load : Binary64 := ⟨0x3ff8000000000000⟩
    let readings := Readings.ofHistory [([("Load", load), ("Noise", .nan)], true)]
    ∃ post, postOf? sender id readings.batch = some post ∧
      let (response, after, _) := intake.answer post
      response.status = 200 ∧ after.storage.store.gauges.get? "Load" = some load ∧
        after.storage.store.gauges.get? "Noise" = none ∧
        ∃ total, after.storage.store.counters.get? "PollCount" = some total ∧ total.toInt = 1 := by
  intro key subnet intake sender load readings
  have suits : sender.Suits intake.gate := by
    refine ⟨⟨rfl, .inr ⟨_, _, rfl, rfl, PrivateKey.opens_ofMersenne, ?_⟩⟩, ?_, ?_⟩
    · decide +kernel
    · rintro _ ⟨⟩
      exact ⟨_, rfl, by decide +kernel⟩
    · exact ⟨⟨false, "localhost", 8080, Protocol.batchPath⟩, by decide⟩
  obtain ⟨post, sent, arrives⟩ := readings_arrive intake sender id
    [([("Load", load), ("Noise", .nan)], true)] (by decide) suits (by decide) (by decide)
  have short : (postOf? sender id readings.batch).all
      (fun post => decide (post.body.length ≤ Gate.longestBody)) = true := by decide +kernel
  rw [sent] at short
  obtain ⟨status, gauges, polls, _⟩ := arrives post.body rfl (of_decide_eq_true short)
  exact ⟨post, sent, status, gauges "Load", gauges "Noise", polls⟩

end Intake

end Telemetry
