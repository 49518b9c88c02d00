import Mathlib.Algebra.Order.Floor.Div
import Telemetry.Proofs.Number.Endian
import Telemetry.Proofs.Sealing.Key
import Telemetry.Proofs.Sealing.Padding
import Telemetry.Proofs.Traversal

/-!
# Opening what was sealed

A payload that is sealed by the one key of a pair is opened by the other. Each piece makes one block of the
size of the key; as a number, a padded piece is below the modulus because its first byte is zero. The blocks
follow one another without anything in between, so their size alone tells them apart.

Whether there is room for the pieces does not depend on the seeds: the padding has to fit, and a byte more unless
the payload is empty.
-/

namespace Telemetry

namespace PublicKey

/-- The modulus fits into a block. -/
theorem modulus_lt (key : PublicKey) : key.modulus < 256 ^ key.size := by
  by_cases zero : key.modulus = 0
  · rw [zero]
    positivity
  · have enoughBits : key.modulus.log2 + 1 ≤ 8 * key.size := by
      simp only [size, bitCount, zero, if_false]
      omega
    calc key.modulus < 2 ^ (key.modulus.log2 + 1) := Nat.lt_log2_self
      _ ≤ 2 ^ (8 * key.size) := Nat.pow_le_pow_right (by omega) enoughBits
      _ = 256 ^ key.size := by
        rw [pow_mul]
        norm_num

/-- The modulus does not fit into less than a block. -/
theorem le_modulus {key : PublicKey} (positive : key.modulus ≠ 0) :
    256 ^ (key.size - 1) ≤ key.modulus := by
  have fewBits : 8 * (key.size - 1) ≤ key.modulus.log2 := by
    simp only [size, bitCount, positive, if_false]
    omega
  calc 256 ^ (key.size - 1) = 2 ^ (8 * (key.size - 1)) := by
        rw [pow_mul]
        norm_num
    _ ≤ 2 ^ key.modulus.log2 := Nat.pow_le_pow_right (by omega) fewBits
    _ ≤ key.modulus := Nat.log2_self_le positive

/-- A key with a modulus has room for something. -/
theorem size_pos {key : PublicKey} (positive : key.modulus ≠ 0) : 0 < key.size := by
  by_contra zero
  have small := key.modulus_lt
  rw [Nat.eq_zero_of_not_pos zero, pow_zero] at small
  omega

end PublicKey

namespace Envelope

open PublicKey (size_pos)

/-! ## Pieces -/

theorem piecesOnto_append (size : Nat) (done before : List Bytes) (bytes : Bytes) :
    piecesOnto size (done ++ before) bytes = piecesOnto size done bytes ++ before := by
  induction done, bytes using piecesOnto.induct size with
  | case1 done => simp [piecesOnto]
  | case2 done first rest inductionHypothesis =>
    rw [piecesOnto, piecesOnto, ← inductionHypothesis]
    rfl

theorem pieces_nil (size : Nat) : pieces size [] = [] := by
  rw [pieces, piecesOnto, List.reverse_nil]

/-- The first piece is what stands in front, and the others are the pieces of what follows. -/
theorem pieces_of_ne_nil {size : Nat} (positive : 0 < size) {bytes : Bytes} (nonempty : bytes ≠ []) :
    pieces size bytes = bytes.take size :: pieces size (bytes.drop size) := by
  obtain ⟨first, rest, rfl⟩ := List.exists_cons_of_ne_nil nonempty
  obtain ⟨size, rfl⟩ : ∃ less, size = less + 1 := ⟨size - 1, by omega⟩
  have done : ∀ piece : Bytes, [piece] = [] ++ [piece] := fun _ => rfl
  rw [pieces, piecesOnto, done, piecesOnto_append, List.reverse_append]
  rfl

/-- What holds of nothing, and of some bytes when it holds of what follows their first piece, holds of all. -/
theorem induction_pieces {size : Nat} (positive : 0 < size) {motive : Bytes → Prop} (nil : motive [])
    (step : ∀ bytes, bytes ≠ [] → motive (bytes.drop size) → motive bytes) (bytes : Bytes) :
    motive bytes := by
  induction length : bytes.length using Nat.strong_induction_on generalizing bytes with
  | _ length' inductionHypothesis =>
    by_cases empty : bytes = []
    · rw [empty]
      exact nil
    · have longer := List.length_pos_iff.2 empty
      have shorter : (bytes.drop size).length < length' := by
        rw [List.length_drop]
        omega
      exact step bytes empty (inductionHypothesis _ shorter _ rfl)

/-- A whole piece in front is the first of the pieces. -/
theorem pieces_append {size : Nat} (positive : 0 < size) {piece : Bytes} (whole : piece.length = size)
    (rest : Bytes) : pieces size (piece ++ rest) = piece :: pieces size rest := by
  have nonempty : piece ++ rest ≠ [] := by
    intro empty
    rw [(List.append_eq_nil_iff.1 empty).1, List.length_nil] at whole
    omega
  rw [pieces_of_ne_nil positive nonempty, List.take_left' whole, List.drop_left' whole]

/-- The pieces of whole pieces are these. -/
theorem pieces_flatten {size : Nat} (positive : 0 < size) {blocks : List Bytes}
    (whole : ∀ block ∈ blocks, block.length = size) : pieces size blocks.flatten = blocks := by
  induction blocks with
  | nil => exact pieces_nil size
  | cons block blocks inductionHypothesis =>
    rw [List.flatten_cons, pieces_append positive (whole block List.mem_cons_self),
      inductionHypothesis fun other listed => whole other (List.mem_cons_of_mem _ listed)]

theorem length_flatten {size : Nat} {blocks : List Bytes} (whole : ∀ block ∈ blocks, block.length = size) :
    blocks.flatten.length = blocks.length * size := by
  induction blocks with
  | nil => simp
  | cons block blocks inductionHypothesis =>
    rw [List.flatten_cons, List.length_append, whole block List.mem_cons_self,
      inductionHypothesis fun other listed => whole other (List.mem_cons_of_mem _ listed),
      List.length_cons, Nat.succ_mul, Nat.add_comm]

/-- Together the pieces are what was taken apart. -/
theorem flatten_pieces {size : Nat} (positive : 0 < size) (bytes : Bytes) :
    (pieces size bytes).flatten = bytes := by
  induction bytes using induction_pieces positive with
  | nil => rw [pieces_nil, List.flatten_nil]
  | step bytes nonempty inductionHypothesis =>
    rw [pieces_of_ne_nil positive nonempty, List.flatten_cons, inductionHypothesis, List.take_append_drop]

theorem length_le_of_mem_pieces {size : Nat} (positive : 0 < size) {bytes piece : Bytes}
    (listed : piece ∈ pieces size bytes) : piece.length ≤ size := by
  induction bytes using induction_pieces positive with
  | nil => simp [pieces_nil] at listed
  | step bytes nonempty inductionHypothesis =>
    rw [pieces_of_ne_nil positive nonempty] at listed
    rcases List.mem_cons.1 listed with rfl | later
    · exact List.length_take_le _ _
    · exact inductionHypothesis later

/-- There are as many pieces as it takes. -/
theorem length_pieces {size : Nat} (positive : 0 < size) (bytes : Bytes) :
    (pieces size bytes).length = bytes.length ⌈/⌉ size := by
  induction bytes using induction_pieces positive with
  | nil => rw [pieces_nil, List.length_nil, List.length_nil, zero_ceilDiv]
  | step bytes nonempty inductionHypothesis =>
    have longer := List.length_pos_iff.2 nonempty
    rw [pieces_of_ne_nil positive nonempty, List.length_cons, inductionHypothesis, List.length_drop,
      Nat.ceilDiv_eq_add_pred_div, Nat.ceilDiv_eq_add_pred_div]
    by_cases short : bytes.length ≤ size
    · rw [Nat.sub_eq_zero_of_le short, Nat.div_eq_of_lt (by omega), Nat.div_eq_of_lt_le] <;> omega
    · rw [← Nat.add_div_right _ positive]
      congr 1
      omega

/-- The pieces of whole pieces, and then those of what follows. -/
theorem pieces_append_of_whole {size : Nat} (positive : 0 < size) {first : Bytes}
    (whole : first.length % size = 0) (second : Bytes) :
    pieces size (first ++ second) = pieces size first ++ pieces size second := by
  induction first using induction_pieces positive with
  | nil => rw [pieces_nil, List.nil_append, List.nil_append]
  | step first nonempty inductionHypothesis =>
    have longer := List.length_pos_iff.2 nonempty
    have enough : size ≤ first.length := Nat.le_of_dvd longer (Nat.dvd_of_mod_eq_zero whole)
    have restWhole : (first.drop size).length % size = 0 := by
      rw [List.length_drop, ← Nat.mod_eq_sub_mod enough]
      exact whole
    have split : first ++ second = first.take size ++ (first.drop size ++ second) := by
      rw [← List.append_assoc, List.take_append_drop]
    rw [split, pieces_append positive (List.length_take_of_le enough), inductionHypothesis restWhole,
      pieces_of_ne_nil positive nonempty, List.cons_append]

theorem pieces_ne_nil {size : Nat} (positive : 0 < size) {bytes : Bytes} (nonempty : bytes ≠ []) :
    pieces size bytes ≠ [] := by
  rw [pieces_of_ne_nil positive nonempty]
  exact List.cons_ne_nil _ _

/-! ## Blocks -/

/-- A pair of keys has a modulus. -/
theorem modulus_ne_zero {opening : PrivateKey} {sealing : PublicKey} (pair : opening.Opens sealing) :
    sealing.modulus ≠ 0 := by
  obtain ⟨first, second, firstPrime, secondPrime, _, product, _, _⟩ := pair.factors
  rw [product]
  exact Nat.mul_ne_zero firstPrime.ne_zero secondPrime.ne_zero

/-- A padded message is below the modulus, since its first byte is zero. -/
theorem ofBig_lt_modulus {key : PublicKey} (positive : key.modulus ≠ 0) {padded : Bytes}
    (size : padded.length = key.size) (first : padded.head? = some 0) :
    Endian.ofBig padded < key.modulus := by
  obtain ⟨rest, rfl⟩ : ∃ rest, padded = 0 :: rest := List.head?_eq_some_iff.1 first
  rw [Endian.ofBig_cons_zero]
  have rest_length : rest.length = key.size - 1 := by
    rw [← size, List.length_cons, Nat.add_sub_cancel]
  calc Endian.ofBig rest < 256 ^ (key.size - 1) := rest_length ▸ Endian.ofBig_lt rest
    _ ≤ key.modulus := PublicKey.le_modulus positive

/-- A piece can be sealed exactly if the key has room for it. -/
theorem isSome_sealBlock?_iff {key : PublicKey} {seed : Nat} {message : Bytes} :
    (sealBlock? key seed message).isSome ↔ message.length + Padding.overhead ≤ key.size := by
  rw [sealBlock?, Option.isSome_map, Padding.isSome_encode?_iff]

/-- A block is of the size of the key. -/
theorem length_of_sealBlock? {key : PublicKey} {seed : Nat} {message block : Bytes}
    (sealed : sealBlock? key seed message = some block) : block.length = key.size := by
  obtain ⟨_, _, rfl⟩ := Option.map_eq_some_iff.1 sealed
  exact Endian.length_big _ _

/-- A block is of the size of the key, and the other key of the pair opens it. -/
theorem openBlock?_of_sealBlock? {opening : PrivateKey} {sealing : PublicKey}
    (pair : opening.Opens sealing) {seed : Nat} {message block : Bytes}
    (sealed : sealBlock? sealing seed message = some block) :
    block.length = sealing.size ∧ openBlock? opening block = some message := by
  refine ⟨length_of_sealBlock? sealed, ?_⟩
  obtain ⟨padded, encoded, rfl⟩ := Option.map_eq_some_iff.1 sealed
  have seedSize : (Endian.big Padding.digestSize seed).length = Padding.digestSize :=
    Endian.length_big _ _
  obtain ⟨size, first⟩ := Padding.encode?_eq_some seedSize encoded
  have positive := modulus_ne_zero pair
  have below : Endian.ofBig padded < sealing.modulus := ofBig_lt_modulus positive size first
  have powerBelow : power (Endian.ofBig padded) sealing.exponent sealing.modulus < sealing.modulus := by
    rw [power_eq]
    exact Nat.mod_lt _ (Nat.pos_of_ne_zero positive)
  have powerRead : Endian.ofBig (Endian.big sealing.size
      (power (Endian.ofBig padded) sealing.exponent sealing.modulus)) =
        power (Endian.ofBig padded) sealing.exponent sealing.modulus :=
    Endian.ofBig_big _ _ (powerBelow.trans sealing.modulus_lt)
  simp only [openBlock?, pair.publicKey_eq, powerRead]
  rw [if_pos powerBelow, power_power pair below, ← size, Endian.big_ofBig]
  exact Padding.decode?_of_encode? seedSize encoded

/-! ## Payloads -/

/-- The pieces of a payload that are sealed, one at least. -/
def messages (key : PublicKey) (payload : Bytes) : List Bytes :=
  if payload = [] then [[]] else pieces (pieceSize key) payload

theorem pieceSize_pos (key : PublicKey) : 0 < pieceSize key :=
  Nat.lt_of_lt_of_le Nat.zero_lt_one (Nat.le_max_left _ _)

theorem messages_ne_nil (key : PublicKey) (payload : Bytes) : messages key payload ≠ [] := by
  unfold messages
  split
  · exact List.cons_ne_nil _ _
  · exact pieces_ne_nil (pieceSize_pos key) ‹_›

theorem flatten_messages (key : PublicKey) (payload : Bytes) : (messages key payload).flatten = payload := by
  unfold messages
  split
  · rename_i empty
    rw [empty]
    rfl
  · exact flatten_pieces (pieceSize_pos key) payload

theorem length_le_of_mem_messages {key : PublicKey} {payload message : Bytes}
    (listed : message ∈ messages key payload) : message.length ≤ pieceSize key := by
  unfold messages at listed
  split at listed
  · rw [List.mem_singleton.1 listed]
    exact Nat.zero_le _
  · exact length_le_of_mem_pieces (pieceSize_pos key) listed

/-- Each message is sealed with a seed of its own. -/
theorem seal?_eq (key : PublicKey) (entropy : Entropy) (payload : Bytes) :
    seal? key entropy payload = ((messages key payload).zipIdx.mapM fun numbered =>
      sealBlock? key (entropy numbered.2) numbered.1).map List.flatten := rfl

/-- What is sealed is the blocks of its messages, each with a seed of its own. -/
theorem seal?_eq_some_iff {key : PublicKey} {entropy : Entropy} {payload sealed : Bytes} :
    seal? key entropy payload = some sealed ↔
      ∃ blocks, List.Forall₂ (fun numbered block =>
        sealBlock? key (entropy numbered.2) numbered.1 = some block) (messages key payload).zipIdx blocks ∧
          blocks.flatten = sealed := by
  simp only [seal?_eq, Option.map_eq_some_iff, mapM_eq_some_iff_forall₂]

theorem isWhole_iff {key : PrivateKey} {payload : Bytes} :
    isWhole key payload = true ↔ payload ≠ [] ∧ payload.length % key.publicKey.size = 0 := by
  simp [isWhole]

/-- What is sealed is whole blocks, and the other key of the pair opens them. -/
theorem open?_of_seal? {opening : PrivateKey} {sealing : PublicKey} (pair : opening.Opens sealing)
    {entropy : Entropy} {payload sealed : Bytes} (isSealed : seal? sealing entropy payload = some sealed) :
    isWhole opening sealed = true ∧ open? opening sealed = some payload := by
  obtain ⟨blocks, sealedInTurn, rfl⟩ := seal?_eq_some_iff.1 isSealed
  have openedInTurn : List.Forall₂
      (fun block message => block.length = sealing.size ∧ openBlock? opening block = some message)
      blocks (messages sealing payload) := by
    rw [← List.zipIdx_map_fst 0 (messages sealing payload), List.forall₂_map_right_iff]
    exact (sealedInTurn.imp fun _ _ blockSealed => openBlock?_of_sealBlock? pair blockSealed).flip
  obtain ⟨wholeBlocks, opened⟩ := (List.forall₂_and_left _ _).1 openedInTurn
  have room : 0 < sealing.size := size_pos (modulus_ne_zero pair)
  have length := length_flatten wholeBlocks
  have someBlocks : blocks ≠ [] := by
    rintro rfl
    exact messages_ne_nil sealing payload (List.forall₂_nil_left_iff.1 opened)
  constructor
  · have someBytes : blocks.flatten ≠ [] := by
      apply List.length_pos_iff.1
      rw [length]
      exact Nat.mul_pos (List.length_pos_iff.2 someBlocks) room
    rw [isWhole_iff, pair.publicKey_eq, length]
    exact ⟨someBytes, Nat.mul_mod_left _ _⟩
  · rw [open?, pair.publicKey_eq, pieces_flatten room wholeBlocks, mapM_eq_some_iff_forall₂.2 opened,
      Option.map_some, flatten_messages]

/-! ## Room for messages -/

/-- A piece is as long as there is room for, if there is room for a byte. -/
theorem pieceSize_eq {key : PublicKey} (room : Padding.overhead < key.size) :
    pieceSize key = key.size - Padding.overhead :=
  Nat.max_eq_right (Nat.sub_pos_of_lt room)

/-- There is a message for each piece, and one even for an empty payload. -/
theorem length_messages {key : PublicKey} {payload : Bytes}
    (room : Padding.overhead < key.size ∨ payload = []) :
    (messages key payload).length = max 1 (payload.length ⌈/⌉ (key.size - Padding.overhead)) := by
  unfold messages
  split
  · next empty =>
    rw [empty, List.length_nil, zero_ceilDiv]
    rfl
  · next nonempty =>
    have some := List.length_pos_iff.2 (pieces_ne_nil (pieceSize_pos key) nonempty)
    rw [length_pieces (pieceSize_pos key), pieceSize_eq (room.resolve_right nonempty)] at some ⊢
    exact (Nat.max_eq_right some).symm

/-- There is room for each message of a payload exactly if there is room for a byte, or the payload is empty and
there is room for the padding. -/
theorem forall_messages_fit_iff {key : PublicKey} {payload : Bytes} :
    (∀ message ∈ messages key payload, message.length + Padding.overhead ≤ key.size) ↔
      Padding.overhead < key.size ∨ key.size = Padding.overhead ∧ payload = [] := by
  constructor
  · intro fit
    by_cases empty : payload = []
    · have isMessage : [] ∈ messages key payload := by simp [messages, empty]
      have room := fit [] isMessage
      rw [List.length_nil, Nat.zero_add] at room
      exact room.lt_or_eq.imp_right fun same => ⟨same.symm, empty⟩
    · have isMessage : payload.take (pieceSize key) ∈ messages key payload := by
        rw [messages, if_neg empty, pieces_of_ne_nil (pieceSize_pos key) empty]
        exact List.mem_cons_self
      have longer := List.length_pos_iff.2 empty
      have room := fit _ isMessage
      have positive := pieceSize_pos key
      rw [List.length_take] at room
      exact .inl (by omega)
  · rintro (room | ⟨noRoom, rfl⟩) message isMessage
    · have short := length_le_of_mem_messages isMessage
      rw [pieceSize_eq room] at short
      omega
    · rw [messages, if_pos rfl, List.mem_singleton] at isMessage
      rw [isMessage, noRoom, List.length_nil, Nat.zero_add]

/-- A payload can be sealed exactly if there is room for each of its messages. -/
theorem isSome_seal?_iff {key : PublicKey} {entropy : Entropy} {payload : Bytes} :
    (seal? key entropy payload).isSome ↔
      Padding.overhead < key.size ∨ key.size = Padding.overhead ∧ payload = [] := by
  have each : (∀ numbered ∈ (messages key payload).zipIdx, numbered.1.length + Padding.overhead ≤ key.size) ↔
      ∀ message ∈ messages key payload, message.length + Padding.overhead ≤ key.size := by
    conv_rhs => rw [← List.zipIdx_map_fst 0 (messages key payload)]
    rw [List.forall_mem_map]
  simp only [seal?_eq, Option.isSome_map, isSome_mapM_iff, isSome_sealBlock?_iff]
  exact each.trans forall_messages_fit_iff

/-- Any payload can be sealed if the key has room for a byte. -/
theorem exists_seal? {key : PublicKey} (room : Padding.overhead < key.size) (entropy : Entropy)
    (payload : Bytes) : ∃ sealed, seal? key entropy payload = some sealed :=
  Option.isSome_iff_exists.1 (isSome_seal?_iff.2 (.inl room))

/-- What is sealed is a block for each message, of the size of the key. -/
theorem exists_blocks_of_seal? {key : PublicKey} {entropy : Entropy} {payload sealed : Bytes}
    (isSealed : seal? key entropy payload = some sealed) :
    ∃ blocks : List Bytes, blocks.flatten = sealed ∧ blocks.length = (messages key payload).length ∧
      ∀ block ∈ blocks, block.length = key.size := by
  obtain ⟨blocks, sealedInTurn, flat⟩ := seal?_eq_some_iff.1 isSealed
  refine ⟨blocks, flat, ?_, fun block listed => ?_⟩
  · rw [← sealedInTurn.length_eq, List.length_zipIdx]
  · obtain ⟨_, _, blockSealed⟩ := exists_of_mem_of_mapM (mapM_eq_some_iff_forall₂.2 sealedInTurn) listed
    exact length_of_sealBlock? blockSealed

/-- Payloads that can be opened can be opened together. -/
theorem open?_append {key : PrivateKey} {first second opened other : Bytes} (whole : isWhole key first = true)
    (isOpened : open? key first = some opened) (isOther : open? key second = some other) :
    open? key (first ++ second) = some (opened ++ other) := by
  obtain ⟨nonempty, whole⟩ := isWhole_iff.1 whole
  have positive : 0 < key.publicKey.size := by
    by_contra zero
    rw [Nat.eq_zero_of_not_pos zero, Nat.mod_zero, List.length_eq_zero_iff] at whole
    exact nonempty whole
  obtain ⟨messages, areMessages, rfl⟩ := Option.map_eq_some_iff.1 isOpened
  obtain ⟨others, areOthers, rfl⟩ := Option.map_eq_some_iff.1 isOther
  rw [open?, pieces_append_of_whole positive whole, List.mapM_append, areMessages, areOthers]
  simp

end Envelope

end Telemetry
