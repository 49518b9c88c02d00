import Telemetry.Proofs.Payload.Frame

/-!
# Payloads in blocks

A key seals payloads in blocks of its own size. The padding takes 66 bytes of a block, so a key of 67 bytes or more
seals everything, and a key of 66 bytes nothing but nothing. The blocks do not depend on one another: payloads
that have been sealed apart are opened together.
-/

namespace Telemetry

namespace FrameWriter

variable {writer : FrameWriter} {key : PublicKey} {entropy : Entropy} {payload sealed : Bytes}

theorem sealPayload_eq_ok_iff (sealKey : writer.sealingKey = some key) :
    writer.sealPayload entropy payload = .ok sealed ↔ Envelope.seal? key entropy payload = some sealed := by
  simp only [sealPayload, sealKey]
  cases Envelope.seal? key entropy payload <;> simp

/-- A payload can be sealed exactly if there is room for a byte in a block, or it is empty and there is room for
the padding. -/
theorem exists_sealPayload_iff (sealKey : writer.sealingKey = some key) :
    (∃ sealed, writer.sealPayload entropy payload = .ok sealed) ↔
      67 ≤ key.size ∨ key.size = 66 ∧ payload = [] := by
  simp only [sealPayload_eq_ok_iff sealKey, ← Option.isSome_iff_exists]
  exact Envelope.isSome_seal?_iff

/-- A sealed payload is made of blocks, as many as it takes, and one at least. -/
theorem exists_blocks (sealKey : writer.sealingKey = some key)
    (isSealed : writer.sealPayload entropy payload = .ok sealed) :
    ∃ blocks : List Bytes, blocks.flatten = sealed ∧
      blocks.length = max 1 (payload.length ⌈/⌉ (key.size - 66)) ∧
        ∀ block ∈ blocks, block.length = key.size := by
  have isSealed := (sealPayload_eq_ok_iff sealKey).1 isSealed
  have room := Envelope.isSome_seal?_iff.1 (Option.isSome_of_eq_some isSealed)
  obtain ⟨blocks, flat, count, whole⟩ := Envelope.exists_blocks_of_seal? isSealed
  rw [Envelope.length_messages (room.imp_right And.right)] at count
  exact ⟨blocks, flat, count, whole⟩

end FrameWriter

namespace FrameReader

variable {reader : FrameReader} {key : PrivateKey} {sealed first second opened other : Bytes}

theorem openPayload_eq_ok_iff (openKey : reader.openingKey = some key) :
    reader.openPayload sealed = .ok opened ↔
      Envelope.isWhole key sealed = true ∧ Envelope.open? key sealed = some opened := by
  simp only [openPayload, openKey]
  cases Envelope.isWhole key sealed <;> cases Envelope.open? key sealed <;> simp

/-- What is not made of whole blocks, one at least, is refused for that. -/
theorem openPayload_of_partial (openKey : reader.openingKey = some key)
    (isPartial : sealed = [] ∨ ¬key.publicKey.size ∣ sealed.length) :
    reader.openPayload sealed = .error (.partialBlock sealed.length key.publicKey.size) := by
  have broken : ¬Envelope.isWhole key sealed = true := by
    rw [Envelope.isWhole_iff, ← Nat.dvd_iff_mod_eq_zero]
    rintro ⟨nonempty, divides⟩
    exact isPartial.elim nonempty fun undivided => undivided divides
  simp only [openPayload, openKey]
  exact if_neg broken

/-- What can be opened apart is opened together. -/
theorem openPayload_append (openKey : reader.openingKey = some key)
    (isOpened : reader.openPayload first = .ok opened) (isOther : reader.openPayload second = .ok other) :
    reader.openPayload (first ++ second) = .ok (opened ++ other) := by
  obtain ⟨firstWhole, isOpened⟩ := (openPayload_eq_ok_iff openKey).1 isOpened
  obtain ⟨secondWhole, isOther⟩ := (openPayload_eq_ok_iff openKey).1 isOther
  refine (openPayload_eq_ok_iff openKey).2 ⟨?_, Envelope.open?_append firstWhole isOpened isOther⟩
  obtain ⟨nonempty, firstDivides⟩ := Envelope.isWhole_iff.1 firstWhole
  obtain ⟨_, secondDivides⟩ := Envelope.isWhole_iff.1 secondWhole
  refine Envelope.isWhole_iff.2 ⟨fun empty => nonempty (List.append_eq_nil_iff.1 empty).1, ?_⟩
  rw [List.length_append, Nat.add_mod, firstDivides, secondDivides, Nat.zero_add, Nat.zero_mod]

end FrameReader

namespace FrameWriter

/-- A writer with a key of so many bytes seals every payload if these are 67 or more, none but the empty one if
they are 66, and nothing if they are fewer. What it seals is blocks of this size, as many as it takes to hold 66
bytes less in each, and one at least, and a reader with the other key of the pair opens it.

A reader with any key refuses what is empty or no multiple of its size, and what it opens apart it opens
together. -/
theorem seals_in_whole_blocks (writer : FrameWriter) (key : PublicKey) (sealKey : writer.sealingKey = some key)
    (reader : FrameReader) (opening : PrivateKey) (openKey : reader.openingKey = some opening) :
    (∀ entropy payload,
      ((∃ sealed, writer.sealPayload entropy payload = .ok sealed) ↔
        67 ≤ key.size ∨ key.size = 66 ∧ payload = []) ∧
      ∀ sealed, writer.sealPayload entropy payload = .ok sealed →
        (∃ blocks : List Bytes, blocks.flatten = sealed ∧
          blocks.length = max 1 (payload.length ⌈/⌉ (key.size - 66)) ∧
          ∀ block ∈ blocks, block.length = key.size) ∧
        (opening.Opens key → reader.openPayload sealed = .ok payload)) ∧
    (∀ sealed, sealed = [] ∨ ¬opening.publicKey.size ∣ sealed.length →
      reader.openPayload sealed = .error (.partialBlock sealed.length opening.publicKey.size)) ∧
    ∀ first second opened other, reader.openPayload first = .ok opened → reader.openPayload second = .ok other →
      reader.openPayload (first ++ second) = .ok (opened ++ other) := by
  refine ⟨fun entropy payload => ⟨exists_sealPayload_iff sealKey, fun sealed isSealed => ?_⟩,
    fun sealed => FrameReader.openPayload_of_partial openKey,
    fun first second opened other => FrameReader.openPayload_append openKey⟩
  refine ⟨exists_blocks sealKey isSealed, fun pair => ?_⟩
  have seals : writer.SealsFor reader := .inr ⟨key, opening, sealKey, openKey, pair⟩
  exact seals.openPayload isSealed

/-- With room for 15 bytes in a block, 16 bytes take two, and two such payloads are opened together. -/
theorem seals_in_whole_blocks_of_sixteen :
    let opening := PrivateKey.ofMersenne
    let writer : FrameWriter := { sealingKey := some opening.publicKey }
    let reader : FrameReader := { openingKey := some opening }
    let payload := Text.utf8 "sixteen bytes..."
    opening.publicKey.size = 81 ∧ payload.length = 16 ∧ opening.Opens opening.publicKey ∧
      ∃ sealed, writer.sealPayload id payload = .ok sealed ∧ sealed.length = 162 ∧
        reader.openPayload (sealed ++ sealed) = .ok (payload ++ payload) := by
  intro opening writer reader payload
  have size : opening.publicKey.size = 81 := by decide +kernel
  have length : payload.length = 16 := by decide +kernel
  have pair : opening.Opens opening.publicKey := PrivateKey.opens_ofMersenne
  obtain ⟨seals, _, together⟩ := seals_in_whole_blocks writer opening.publicKey rfl reader opening rfl
  obtain ⟨sealed, isSealed⟩ := (seals id payload).1.2 (.inl (by rw [size]; decide))
  obtain ⟨⟨blocks, flat, count, whole⟩, opens⟩ := (seals id payload).2 sealed isSealed
  refine ⟨size, length, pair, sealed, isSealed, ?_, together _ _ _ _ (opens pair) (opens pair)⟩
  rw [← flat, Envelope.length_flatten whole, count, size, length]
  decide

end FrameWriter

end Telemetry
