import Telemetry.Payload.Frame
import Telemetry.Proofs.Compression.Gzip
import Telemetry.Proofs.Metric.Wire
import Telemetry.Proofs.Sealing.Envelope
import Telemetry.Proofs.Text.Ascii

/-!
# Reading frames back

A writer and a reader of frames that agree on their keys understand each other: what the one frames, the
other reads, sealed, signed and compressed as it is. They agree if they sign with the same key or with none,
and seal with a pair of keys or not at all.
-/

namespace Telemetry

/-- What is signed with a key passes the check with the same key. -/
theorem Signature.verify_sign {payload : Bytes} {key otherKey : Option String}
    (sameKey : usableKey key = usableKey otherKey) :
    verify payload otherKey (sign payload key) = .ok () := by
  unfold verify sign
  rw [← sameKey]
  cases usableKey key with
  | none => rfl
  | some key =>
    simp only [Option.map_some, (Hex.isVisible_text _).trim, Hex.decode?_text]
    split
    · rfl
    · exact if_pos trivial

/-- A key that is not empty signs, and nothing else does. -/
theorem Signature.isSome_sign_iff {payload : Bytes} {key : Option String} :
    (sign payload key).isSome ↔ ∃ text, key = some text ∧ text ≠ "" := by
  cases key with
  | none => simp [sign, usableKey]
  | some text => simp [sign, usableKey, Option.isSome_filter]

/-- A writer and a reader agree on their keys. -/
structure FrameWriter.Agrees (writer : FrameWriter) (reader : FrameReader) : Prop where
  /-- They sign with the same key, or neither has one that is not empty. -/
  signing : Signature.usableKey writer.key = Signature.usableKey reader.key
  /-- They seal with a pair of keys that has room for a byte in a block, or not at all. -/
  sealing : writer.sealingKey = none ∧ reader.openingKey = none ∨
    ∃ sealing opening, writer.sealingKey = some sealing ∧ reader.openingKey = some opening ∧
      opening.Opens sealing ∧ Padding.overhead < sealing.size

namespace FrameWriter

variable {writer : FrameWriter} {reader : FrameReader}

/-- A writer and a reader seal with a pair of keys, or not at all. -/
def SealsFor (writer : FrameWriter) (reader : FrameReader) : Prop :=
  writer.sealingKey = none ∧ reader.openingKey = none ∨
    ∃ sealing opening, writer.sealingKey = some sealing ∧ reader.openingKey = some opening ∧
      opening.Opens sealing

theorem Agrees.sealsFor (agrees : writer.Agrees reader) : writer.SealsFor reader := by
  rcases agrees.sealing with unsealed | ⟨sealing, opening, sealKey, openKey, pair, _⟩
  · exact .inl unsealed
  · exact .inr ⟨sealing, opening, sealKey, openKey, pair⟩

/-- What has been sealed is opened again. -/
theorem SealsFor.openPayload (seals : writer.SealsFor reader) {entropy : Entropy} {payload sealed : Bytes}
    (isSealed : writer.sealPayload entropy payload = .ok sealed) :
    reader.openPayload sealed = .ok payload := by
  rcases seals with ⟨unsealed, unopened⟩ | ⟨sealing, opening, sealKey, openKey, pair⟩
  · rw [sealPayload, unsealed] at isSealed
    cases isSealed
    rw [FrameReader.openPayload, unopened]
  · simp only [sealPayload, sealKey] at isSealed
    cases found : Envelope.seal? sealing entropy payload with
    | none =>
      rw [found] at isSealed
      cases isSealed
    | some bytes =>
      rw [found] at isSealed
      cases isSealed
      obtain ⟨whole, opened⟩ := Envelope.open?_of_seal? pair found
      simp only [FrameReader.openPayload, openKey, whole, if_true, opened]

/-- Any payload can be sealed, and it is opened again. -/
theorem Agrees.exists_sealed (agrees : writer.Agrees reader) (entropy : Entropy) (payload : Bytes) :
    ∃ sealed, writer.sealPayload entropy payload = .ok sealed ∧
      reader.openPayload sealed = .ok payload := by
  have exists_sealed : ∃ sealed, writer.sealPayload entropy payload = .ok sealed := by
    rcases agrees.sealing with ⟨unsealed, _⟩ | ⟨sealing, _, sealKey, _, _, room⟩
    · exact ⟨payload, by rw [sealPayload, unsealed]⟩
    · obtain ⟨sealed, isSealed⟩ := Envelope.exists_seal? room entropy payload
      exact ⟨sealed, by simp only [sealPayload, sealKey, isSealed]⟩
  obtain ⟨sealed, isSealed⟩ := exists_sealed
  exact ⟨sealed, isSealed, agrees.sealsFor.openPayload isSealed⟩

/-- Any payload can be framed, and it is read from its frame. -/
theorem Agrees.exists_frame (agrees : writer.Agrees reader) (entropy : Entropy) (payload : Bytes) :
    ∃ frame, writer.frame entropy payload = .ok frame ∧
      reader.payload frame.body true frame.signature = .ok payload := by
  obtain ⟨sealed, isSealed, opened⟩ := agrees.exists_sealed entropy payload
  refine ⟨⟨Gzip.pack sealed, Signature.sign sealed writer.key⟩, by rw [frame, isSealed]; rfl, ?_⟩
  simp only [FrameReader.payload, FrameReader.unpacked, if_true, Gzip.unpack?_pack]
  change (Signature.verify sealed reader.key (Signature.sign sealed writer.key) >>= fun _ =>
    reader.openPayload sealed) = .ok payload
  rw [Signature.verify_sign agrees.signing]
  exact opened

/-- The body of a frame unpacks to the sealed payload, and this is what the signature covers. -/
theorem exists_signed {entropy : Entropy} {payload : Bytes} {frame : Frame}
    (framed : writer.frame entropy payload = .ok frame) :
    ∃ sealed, writer.sealPayload entropy payload = .ok sealed ∧ Gzip.unpack? frame.body = some sealed ∧
      frame.signature = Signature.sign sealed writer.key := by
  unfold FrameWriter.frame at framed
  cases isSealed : writer.sealPayload entropy payload with
  | error cause =>
    rw [isSealed] at framed
    cases framed
  | ok sealed =>
    rw [isSealed] at framed
    cases framed
    exact ⟨sealed, rfl, Gzip.unpack?_pack sealed, rfl⟩

/-- The signature of a frame may stand in a header. -/
theorem isVisible_signature {entropy : Entropy} {payload : Bytes} {frame : Frame} {signature : String}
    (framed : writer.frame entropy payload = .ok frame) (signed : frame.signature = some signature) :
    Text.IsVisible signature := by
  obtain ⟨sealed, _, _, isSignature⟩ := exists_signed framed
  rw [isSignature] at signed
  obtain ⟨key, _, rfl⟩ := Option.map_eq_some_iff.1 signed
  exact Hex.isVisible_text _

/-- Whatever signature goes with it, nothing but its payload is read from a frame. -/
theorem SealsFor.payload_eq (seals : writer.SealsFor reader) {entropy : Entropy} {payload other : Bytes}
    {frame : Frame} {signature : Option String} (framed : writer.frame entropy payload = .ok frame)
    (read : reader.payload frame.body true signature = .ok other) : other = payload := by
  obtain ⟨sealed, isSealed, unpacked, _⟩ := exists_signed framed
  simp only [FrameReader.payload, FrameReader.unpacked, if_true, unpacked] at read
  change (Signature.verify sealed reader.key signature >>= fun _ => reader.openPayload sealed) = .ok other
    at read
  rw [seals.openPayload isSealed] at read
  cases verified : Signature.verify sealed reader.key signature with
  | error cause =>
    rw [verified] at read
    cases read
  | ok _ =>
    rw [verified] at read
    cases read
    rfl

/-- What is read from a frame, if anything, is what its payload stands for. -/
theorem SealsFor.ofBytes?_eq_some {Datum : Type} {ofBytes? : Bytes → Option Datum} {datum : Datum}
    (seals : writer.SealsFor reader) {entropy : Entropy} {payload : Bytes} {frame : Frame}
    {signature : Option String} (framed : writer.frame entropy payload = .ok frame)
    (read : (reader.payload frame.body true signature).bind (FrameReader.decode ofBytes?) = .ok datum) :
    ofBytes? payload = some datum := by
  cases opened : reader.payload frame.body true signature with
  | error cause =>
    rw [opened] at read
    cases read
  | ok other =>
    rw [opened, seals.payload_eq framed opened] at read
    change FrameReader.decode ofBytes? payload = .ok datum at read
    unfold FrameReader.decode at read
    split at read
    · next found =>
      cases read
      exact found
    · cases read

/-- A record without an infinite value is read from its frame. -/
theorem Agrees.exists_recordFrame (agrees : writer.Agrees reader) (entropy : Entropy) {record : Record}
    (finite : record.IsFinite) :
    ∃ frame, writer.frame entropy record.bytes = .ok frame ∧
      reader.record frame.body true frame.signature = .ok record := by
  obtain ⟨frame, framed, read⟩ := agrees.exists_frame entropy record.bytes
  refine ⟨frame, framed, ?_⟩
  rw [FrameReader.record, read]
  simp only [Except.bind, FrameReader.decode, Record.ofBytes?_bytes finite]

/-- A batch of records without infinite values is read from its frame. -/
theorem Agrees.exists_batchFrame (agrees : writer.Agrees reader) (entropy : Entropy) {batch : Batch}
    (finite : ∀ record ∈ batch, record.IsFinite) :
    ∃ frame, writer.frame entropy (Record.batchBytes batch) = .ok frame ∧
      reader.records frame.body true frame.signature = .ok batch := by
  obtain ⟨frame, framed, read⟩ := agrees.exists_frame entropy (Record.batchBytes batch)
  refine ⟨frame, framed, ?_⟩
  rw [FrameReader.records, read]
  simp only [Except.bind, FrameReader.decode, Record.batchOfBytes?_batchBytes_of_isFinite finite]

/-- Under any keys that a writer and a reader agree on, each record without an infinite value can be framed
and is read back as it was, and so is each list of such records, in its order. Whatever is framed is signed
exactly if there is a key that is not empty, and the signature covers the bytes that the body unpacks to:
the payload after sealing and before compression. -/
theorem Agrees.frames_read_back (agrees : writer.Agrees reader) (entropy : Entropy) :
    (∀ record : Record, record.IsFinite →
      ∃ frame, writer.frame entropy record.bytes = .ok frame ∧
        reader.record frame.body true frame.signature = .ok record) ∧
    (∀ records : List Record, (∀ record ∈ records, record.IsFinite) →
      ∃ frame, writer.frame entropy (Record.batchBytes records) = .ok frame ∧
        reader.records frame.body true frame.signature = .ok records) ∧
    ∀ payload frame, writer.frame entropy payload = .ok frame →
      (frame.signature.isSome ↔ ∃ key, writer.key = some key ∧ key ≠ "") ∧
      ∃ sealed, writer.sealPayload entropy payload = .ok sealed ∧ Gzip.unpack? frame.body = some sealed ∧
        frame.signature = Signature.sign sealed writer.key := by
  refine ⟨fun record finite => agrees.exists_recordFrame entropy finite,
    fun records finite => agrees.exists_batchFrame entropy finite, ?_⟩
  intro payload frame framed
  obtain ⟨sealed, isSealed, unpacked, signed⟩ := exists_signed framed
  refine ⟨?_, sealed, isSealed, unpacked, signed⟩
  rw [signed]
  exact Signature.isSome_sign_iff

/-- Under a pair of keys and a key of signatures, a record whose type nobody knows and whose name is not
ASCII, and one without a number, are read back together, and a signature goes with them. -/
theorem Agrees.frames_read_back_sealed :
    let writer : FrameWriter := ⟨some "secret", some PrivateKey.ofMersenne.publicKey⟩
    let reader : FrameReader := ⟨some "secret", some PrivateKey.ofMersenne⟩
    let records : List Record :=
      [⟨"Größe ∞", .ofName "histogram", Count.ofInt? (-7), some ⟨0x3ff8000000000000⟩⟩,
        .query "Alloc" (.known .gauge)]
    ∃ frame, writer.frame id (Record.batchBytes records) = .ok frame ∧
      reader.records frame.body true frame.signature = .ok records ∧ frame.signature.isSome := by
  intro writer reader records
  have agrees : writer.Agrees reader :=
    ⟨rfl, .inr ⟨_, _, rfl, rfl, PrivateKey.opens_ofMersenne, by decide +kernel⟩⟩
  obtain ⟨_, batches, signatures⟩ := agrees.frames_read_back id
  obtain ⟨frame, framed, read⟩ := batches records (by decide)
  have signed := (signatures _ frame framed).1.2 ⟨"secret", rfl, by decide⟩
  exact ⟨frame, framed, read, signed⟩

end FrameWriter

/-- It does not matter how the bytes of a frame are compressed. -/
theorem FrameReader.records_congr {body other : Bytes} (same : Gzip.unpack? body = Gzip.unpack? other)
    (reader : FrameReader) (signature : Option String) :
    reader.records body true signature = reader.records other true signature := by
  have unpackedSame : unpacked body true = unpacked other true := by
    simp only [unpacked, same, if_true]
  rw [records, records, payload, payload, unpackedSame]

end Telemetry
