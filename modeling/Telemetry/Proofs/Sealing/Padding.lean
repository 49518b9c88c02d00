import Telemetry.Sealing.Padding

/-!
# Taking the padding off

A message that was padded to a block is found in the block again, whatever the seed. Mixing twice with one
mask changes nothing; the mask of the seed depends on the masked message, which is read first, and the mask
of the message on the seed, which is known then.
-/

namespace Telemetry.Padding

@[simp]
theorem length_mark : mark.length = digestSize := Sha256.hash_length []

@[simp]
theorem length_mask (seed : Bytes) (length : Nat) : (mask seed length).length = length := by
  have digests : ∀ counters : List Nat,
      (counters.flatMap fun counter => Sha256.hash (seed ++ Endian.big 4 counter)).length =
        32 * counters.length := by
    intro counters
    induction counters with
    | nil => rfl
    | cons counter counters inductionHypothesis =>
      rw [List.flatMap_cons, List.length_append, inductionHypothesis, Sha256.hash_length,
        List.length_cons]
      omega
  rw [mask, List.length_take, digests, List.length_range]
  unfold digestSize
  omega

@[simp]
theorem length_mix (first second : Bytes) :
    (mix first second).length = min first.length second.length := by
  simp [mix]

/-- Mixing twice changes nothing. -/
theorem mix_mix {bytes pattern : Bytes} (enough : bytes.length ≤ pattern.length) :
    mix (mix bytes pattern) pattern = bytes := by
  induction bytes generalizing pattern with
  | nil => simp [mix]
  | cons byte bytes inductionHypothesis =>
    cases pattern with
    | nil => simp at enough
    | cons first pattern =>
      have rest := inductionHypothesis (Nat.le_of_succ_le_succ enough)
      simp only [mix, List.zipWith_cons_cons] at rest ⊢
      rw [rest, UInt8.xor_assoc, UInt8.xor_self, UInt8.xor_zero]

/-- The block of a message is of the size asked for, and begins with a zero. -/
theorem encode?_eq_some {size : Nat} {seed message block : Bytes} (seedSize : seed.length = digestSize)
    (encoded : encode? size seed message = some block) :
    block.length = size ∧ block.head? = some 0 := by
  unfold encode? at encoded
  split at encoded
  · rename_i fits
    cases encoded
    simp [seedSize, overhead, digestSize] at fits ⊢
    omega
  · cases encoded

/-- There is room for a message exactly if it leaves enough for the padding. -/
theorem isSome_encode?_iff {size : Nat} {seed message : Bytes} :
    (encode? size seed message).isSome ↔ message.length + overhead ≤ size := by
  unfold encode?
  split <;> simp [*]

/-- The marker and the zeros are what the message is found behind. -/
theorem dropWhile_zeros (count : Nat) (message : Bytes) :
    (List.replicate count 0 ++ 0x01 :: message).dropWhile (· == 0x00) = 0x01 :: message := by
  induction count with
  | zero => rfl
  | succ count inductionHypothesis => exact inductionHypothesis

/-- A padded message is read back. -/
theorem decode?_of_encode? {size : Nat} {seed message block : Bytes}
    (seedSize : seed.length = digestSize) (encoded : encode? size seed message = some block) :
    decode? block = some message := by
  have blockSize := (encode?_eq_some seedSize encoded).1
  unfold encode? at encoded
  split at encoded
  · rename_i fits
    obtain ⟨body, bodyIs⟩ : ∃ body, body =
      mark ++ List.replicate (size - overhead - message.length) 0 ++ 0x01 :: message := ⟨_, rfl⟩
    simp only [← bodyIs, Option.some.injEq] at encoded
    subst encoded
    have maskedSize : (mix seed (mask (mix body (mask seed body.length)) digestSize)).length =
        digestSize := by simp [seedSize]
    have seedBack : mix (mix seed (mask (mix body (mask seed body.length)) digestSize))
        (mask (mix body (mask seed body.length)) digestSize) = seed := mix_mix (by simp [seedSize])
    have maskedBodySize : (mix body (mask seed body.length)).length = body.length := by simp
    have bodyBack : mix (mix body (mask seed body.length)) (mask seed body.length) = body :=
      mix_mix (by simp)
    have afterMark : (body.drop digestSize).dropWhile (· == 0x00) = 0x01 :: message := by
      rw [bodyIs, List.append_assoc, List.drop_left' length_mark, dropWhile_zeros]
    have isMark : body.take digestSize = mark := by
      rw [bodyIs, List.append_assoc, List.take_left' length_mark]
    simp only [decode?, List.take_left' maskedSize, List.drop_left' maskedSize, seedBack,
      maskedBodySize, bodyBack, afterMark, isMark]
    have enough : overhead ≤ size := by omega
    rw [← blockSize] at enough
    rw [if_pos ⟨trivial, enough, trivial⟩]
  · cases encoded

end Telemetry.Padding
