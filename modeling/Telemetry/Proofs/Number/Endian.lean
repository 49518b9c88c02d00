import Mathlib.Algebra.Group.Nat.Defs
import Mathlib.Data.List.Induction
import Telemetry.Number.Endian

/-!
# Numbers as bytes and back

A number that fits into some bytes is read back from them, and bytes are those of the number that they stand
for.
-/

namespace Telemetry.Endian

theorem div_lt_pow {count value : Nat} (fits : value < 256 ^ (count + 1)) : value / 256 < 256 ^ count := by
  rw [Nat.pow_succ] at fits
  exact Nat.div_lt_of_lt_mul (by omega)

/-- A number that fits is read back, most significant byte first. -/
theorem ofBig_big (count value : Nat) (fits : value < 256 ^ count) :
    ofBig (big count value) = value := by
  induction count generalizing value with
  | zero =>
    have zero : value = 0 := by simpa using fits
    simp [big, ofBig, zero]
  | succ count inductionHypothesis =>
    have upper := inductionHypothesis (value / 256) (div_lt_pow fits)
    have lower : value.toUInt8.toNat = value % 256 := by simp
    simp only [big, ofBig, List.foldl_append, List.foldl_cons, List.foldl_nil] at upper ⊢
    rw [upper, lower]
    omega

/-- A number that fits is read back, least significant byte first. -/
theorem ofLittle_little (count value : Nat) (fits : value < 256 ^ count) :
    ofLittle (little count value) = value := by
  induction count generalizing value with
  | zero =>
    have zero : value = 0 := by simpa using fits
    simp [little, ofLittle, zero]
  | succ count inductionHypothesis =>
    have upper := inductionHypothesis (value / 256) (div_lt_pow fits)
    have lower : value.toUInt8.toNat = value % 256 := by simp
    simp only [little, ofLittle, upper, lower]
    omega

theorem ofBig_append_singleton (bytes : Bytes) (byte : UInt8) :
    ofBig (bytes ++ [byte]) = 256 * ofBig bytes + byte.toNat := by
  simp [ofBig]

theorem ofBig_lt (bytes : Bytes) : ofBig bytes < 256 ^ bytes.length := by
  induction bytes using List.reverseRecOn with
  | nil => simp [ofBig]
  | append_singleton bytes byte inductionHypothesis =>
    have small := byte.toNat_lt
    rw [ofBig_append_singleton, List.length_append, List.length_singleton, Nat.pow_succ]
    omega

/-- Bytes are the digits of the number they stand for. -/
theorem big_ofBig (bytes : Bytes) : big bytes.length (ofBig bytes) = bytes := by
  induction bytes using List.reverseRecOn with
  | nil => rfl
  | append_singleton bytes byte inductionHypothesis =>
    have small := byte.toNat_lt
    have upper : (256 * ofBig bytes + byte.toNat) / 256 = ofBig bytes := by omega
    have lower : (256 * ofBig bytes + byte.toNat).toUInt8 = byte := by
      apply UInt8.toNat_inj.1
      simp
    rw [ofBig_append_singleton, List.length_append, List.length_singleton, big, upper, lower,
      inductionHypothesis]

/-- A zero in front does not count. -/
theorem ofBig_cons_zero (bytes : Bytes) : ofBig (0 :: bytes) = ofBig bytes := by
  simp [ofBig]

end Telemetry.Endian
