import Mathlib.Data.Int.Log
import Mathlib.Data.Rat.Floor
import Mathlib.Tactic.Positivity
import Mathlib.Tactic.Ring
import Telemetry.Number.Decimal

/-!
# Rounding to binary

The nearest binary value depends on the ratio alone and not on how it is written: numerator and denominator
may be multiplied by one factor. A ratio that is a binary value is rounded to that value.
-/

namespace Telemetry

namespace Decimal

theorem roundHalfEven_mul {factor : Nat} (positive : 0 < factor) (numerator denominator : Nat) :
    roundHalfEven (factor * numerator) (factor * denominator) = roundHalfEven numerator denominator := by
  have sameQuotient : factor * numerator / (factor * denominator) = numerator / denominator :=
    Nat.mul_div_mul_left numerator denominator positive
  have remainder : factor * numerator % (factor * denominator) = factor * (numerator % denominator) :=
    Nat.mul_mod_mul_left factor numerator denominator
  have twice : 2 * (factor * (numerator % denominator)) = factor * (2 * (numerator % denominator)) := by
    ring
  simp only [roundHalfEven, sameQuotient, remainder, twice, Nat.mul_lt_mul_left positive,
    Nat.mul_right_inj (Nat.pos_iff_ne_zero.1 positive)]

/-- A whole number is not rounded. -/
theorem roundHalfEven_of_whole (whole : Nat) {denominator : Nat} (positive : 0 < denominator) :
    roundHalfEven (whole * denominator) denominator = whole := by
  simp [roundHalfEven, Nat.mul_div_cancel _ positive, positive]

/-- A power of two as a ratio of natural numbers. -/
theorem zpow_eq_div (exponent : Int) : (2 : ℚ) ^ exponent = 2 ^ exponent.toNat / 2 ^ (-exponent).toNat := by
  rcases Int.le_total 0 exponent with positive | negative
  · obtain ⟨size, rfl⟩ := Int.eq_ofNat_of_zero_le positive
    simp
  · obtain ⟨size, isSize⟩ := Int.eq_ofNat_of_zero_le (Int.neg_nonneg_of_nonpos negative)
    obtain rfl : exponent = -(size : Int) := by omega
    simp

theorem zpow_le_div_iff {numerator denominator : Nat} (positive : 0 < denominator) (exponent : Int) :
    (2 : ℚ) ^ exponent ≤ (numerator : ℚ) / denominator ↔
      denominator * 2 ^ exponent.toNat ≤ numerator * 2 ^ (-exponent).toNat := by
  have denominatorPositive : (0 : ℚ) < denominator := by exact_mod_cast positive
  have powerPositive : (0 : ℚ) < 2 ^ (-exponent).toNat := by positivity
  rw [zpow_eq_div, div_le_div_iff₀ powerPositive denominatorPositive]
  constructor
  · intro bound
    have : (2 ^ exponent.toNat * denominator : ℚ) ≤ numerator * 2 ^ (-exponent).toNat := bound
    rw [mul_comm] at this
    exact_mod_cast this
  · intro bound
    rw [mul_comm]
    exact_mod_cast bound

/-- The bit lengths of numerator and denominator leave two possible logarithms. -/
theorem log_div_bounds {numerator denominator : Nat} (numeratorPositive : 0 < numerator)
    (denominatorPositive : 0 < denominator) :
    (numerator.log2 : Int) - denominator.log2 - 1 ≤ Int.log 2 ((numerator : ℚ) / denominator) ∧
      Int.log 2 ((numerator : ℚ) / denominator) ≤ (numerator.log2 : Int) - denominator.log2 := by
  have positive : (0 : ℚ) < denominator := by exact_mod_cast denominatorPositive
  have valuePositive : (0 : ℚ) < (numerator : ℚ) / denominator := by positivity
  have numeratorAbove : (2 : ℚ) ^ numerator.log2 ≤ numerator := by
    exact_mod_cast Nat.log2_self_le (Nat.pos_iff_ne_zero.1 numeratorPositive)
  have numeratorBelow : (numerator : ℚ) < 2 ^ (numerator.log2 + 1) := by
    exact_mod_cast Nat.lt_log2_self
  have denominatorAbove : (2 : ℚ) ^ denominator.log2 ≤ denominator := by
    exact_mod_cast Nat.log2_self_le (Nat.pos_iff_ne_zero.1 denominatorPositive)
  have denominatorBelow : (denominator : ℚ) ≤ 2 ^ (denominator.log2 + 1) := by
    exact_mod_cast Nat.lt_log2_self.le
  constructor
  · apply (Int.zpow_le_iff_le_log (by norm_num) valuePositive).1
    calc ((2 : Nat) : ℚ) ^ ((numerator.log2 : Int) - denominator.log2 - 1)
        = 2 ^ numerator.log2 / 2 ^ (denominator.log2 + 1) := by
          rw [Int.sub_sub, ← Nat.cast_succ, Nat.cast_ofNat, zpow_sub₀ (by norm_num), zpow_natCast,
            zpow_natCast]
      _ ≤ (numerator : ℚ) / denominator :=
          div_le_div₀ (by positivity) numeratorAbove positive denominatorBelow
  · apply Int.lt_add_one_iff.1
    apply (Int.lt_zpow_iff_log_lt (by norm_num) valuePositive).1
    calc (numerator : ℚ) / denominator
        < 2 ^ (numerator.log2 + 1) / 2 ^ denominator.log2 :=
          div_lt_div₀ numeratorBelow denominatorAbove (by positivity) (by positivity)
      _ = ((2 : Nat) : ℚ) ^ ((numerator.log2 : Int) - denominator.log2 + 1) := by
          rw [sub_add_eq_add_sub, ← Nat.cast_succ, Nat.cast_ofNat, zpow_sub₀ (by norm_num),
            zpow_natCast, zpow_natCast]

/-- The logarithm of a ratio is that of its value. -/
theorem binaryLog_eq {numerator denominator : Nat} (numeratorPositive : 0 < numerator)
    (denominatorPositive : 0 < denominator) :
    binaryLog numerator denominator = Int.log 2 ((numerator : ℚ) / denominator) := by
  have valuePositive : (0 : ℚ) < (numerator : ℚ) / denominator := by positivity
  obtain ⟨lower, upper⟩ := log_div_bounds numeratorPositive denominatorPositive
  have reached : denominator * 2 ^ ((numerator.log2 : Int) - denominator.log2).toNat ≤
      numerator * 2 ^ (-((numerator.log2 : Int) - denominator.log2)).toNat ↔
        (numerator.log2 : Int) - denominator.log2 ≤ Int.log 2 ((numerator : ℚ) / denominator) := by
    rw [← zpow_le_div_iff denominatorPositive]
    exact_mod_cast Int.zpow_le_iff_le_log (by norm_num) valuePositive
  unfold binaryLog
  simp only [Nat.shiftLeft_eq]
  split
  · have := reached.1 ‹_›
    omega
  · have := mt reached.2 ‹_›
    omega

/-- The nearest magnitude depends on the ratio alone. -/
theorem nearestIndex_mul {factor numerator denominator : Nat} (positive : 0 < factor)
    (numeratorPositive : 0 < numerator) (denominatorPositive : 0 < denominator) :
    nearestIndex (factor * numerator) (factor * denominator) = nearestIndex numerator denominator := by
  have sameLog : binaryLog (factor * numerator) (factor * denominator) =
      binaryLog numerator denominator := by
    rw [binaryLog_eq (Nat.mul_pos positive numeratorPositive) (Nat.mul_pos positive denominatorPositive),
      binaryLog_eq numeratorPositive denominatorPositive, Nat.cast_mul, Nat.cast_mul,
      mul_div_mul_left _ _ (by exact_mod_cast Nat.pos_iff_ne_zero.1 positive)]
  simp only [nearestIndex, sameLog, Nat.shiftLeft_eq, Nat.mul_assoc factor, roundHalfEven_mul positive]

/-- Two ways to write one ratio have one nearest magnitude. -/
theorem nearestIndex_congr {first second third fourth : Nat} (firstPositive : 0 < first)
    (secondPositive : 0 < second) (thirdPositive : 0 < third) (fourthPositive : 0 < fourth)
    (sameRatio : first * fourth = third * second) :
    nearestIndex first second = nearestIndex third fourth := by
  rw [← nearestIndex_mul fourthPositive firstPositive secondPositive, Nat.mul_comm fourth first,
    sameRatio, Nat.mul_comm third second, Nat.mul_comm fourth second,
    nearestIndex_mul secondPositive thirdPositive fourthPositive]

end Decimal

namespace Binary64

variable (value : Binary64)

/-! ## Binary values -/

/-- Sign and place on the number line are all there is to a value. -/
theorem ofIndex_index : ofIndex value.isNegative value.index = value := by
  have below := value.bits.toNat_lt
  have sameBits : value.index + (if value.isNegative then signBit else 0) = value.bits.toNat := by
    have isNegative_iff : value.isNegative = true ↔ signBit ≤ value.bits.toNat := decide_eq_true_iff
    simp only [index, isNegative_iff, signBit]
    split <;> omega
  rw [ofIndex, sameBits, UInt64.ofNat_toNat]

theorem leastExponent_le : leastExponent ≤ value.exponent := by
  unfold exponent binade leastExponent
  split <;> omega

/-- Significand and exponent give the place on the number line. -/
theorem index_eq : (value.exponent - leastExponent).toNat * binade + value.significand = value.index := by
  unfold exponent significand binade leastExponent
  split <;> omega

theorem significand_lt : value.significand < 2 ^ 53 := by
  unfold significand binade
  split <;> omega

/-- Only below the least exponent but one, significands are small. -/
theorem exponent_eq_or_le_significand : value.exponent = leastExponent ∨ 2 ^ 52 ≤ value.significand := by
  unfold exponent significand binade
  split
  · exact .inl rfl
  · exact .inr (by omega)

variable {value}

theorem significand_pos (nonzero : value.index ≠ 0) : 0 < value.significand := by
  unfold significand binade
  split <;> omega

/-- The exponent of a value is the one that rounding chooses for it. -/
theorem max_log_eq_exponent (nonzero : value.index ≠ 0) :
    max leastExponent (Int.log 2 ((value.significand : ℚ) * 2 ^ value.exponent) - 52) =
      value.exponent := by
  have significandPositive : (0 : ℚ) < value.significand := by exact_mod_cast significand_pos nonzero
  have powerPositive : (0 : ℚ) < 2 ^ value.exponent := zpow_pos (by norm_num) _
  have magnitudePositive : (0 : ℚ) < value.significand * 2 ^ value.exponent := by positivity
  have upper : Int.log 2 ((value.significand : ℚ) * 2 ^ value.exponent) < 53 + value.exponent := by
    apply (Int.lt_zpow_iff_log_lt (by norm_num) magnitudePositive).1
    rw [Nat.cast_ofNat, zpow_add₀ (by norm_num)]
    exact mul_lt_mul_of_pos_right (by exact_mod_cast value.significand_lt) powerPositive
  have least := value.leastExponent_le
  rcases value.exponent_eq_or_le_significand with isLeast | large
  · omega
  · have lower : 52 + value.exponent ≤ Int.log 2 ((value.significand : ℚ) * 2 ^ value.exponent) := by
      apply (Int.zpow_le_iff_le_log (by norm_num) magnitudePositive).1
      rw [Nat.cast_ofNat, zpow_add₀ (by norm_num)]
      exact mul_le_mul_of_nonneg_right (by exact_mod_cast large) powerPositive.le
    omega

/-- Rounding changes no binary value. -/
theorem nearestIndex_binary (nonzero : value.index ≠ 0) :
    Decimal.nearestIndex (value.significand * 2 ^ value.exponent.toNat)
      (2 ^ (-value.exponent).toNat) = value.index := by
  have numeratorPositive : 0 < value.significand * 2 ^ value.exponent.toNat :=
    Nat.mul_pos (significand_pos nonzero) (Nat.two_pow_pos _)
  have magnitude : ((value.significand * 2 ^ value.exponent.toNat : Nat) : ℚ) /
      (2 ^ (-value.exponent).toNat : Nat) = value.significand * 2 ^ value.exponent := by
    rw [Decimal.zpow_eq_div]
    push_cast
    ring
  have chosen : max leastExponent (Decimal.binaryLog (value.significand * 2 ^ value.exponent.toNat)
      (2 ^ (-value.exponent).toNat) - 52) = value.exponent := by
    rw [Decimal.binaryLog_eq numeratorPositive (Nat.two_pow_pos _), magnitude,
      max_log_eq_exponent nonzero]
  simp only [Decimal.nearestIndex, chosen, Nat.shiftLeft_eq]
  have whole : value.significand * 2 ^ value.exponent.toNat * 2 ^ (-value.exponent).toNat =
      value.significand * (2 ^ (-value.exponent).toNat * 2 ^ value.exponent.toNat) := by ring
  rw [whole, Decimal.roundHalfEven_of_whole _ (Nat.mul_pos (Nat.two_pow_pos _) (Nat.two_pow_pos _)),
    value.index_eq]

end Binary64

/-- A decimal number that is a finite binary value is read as that value. -/
theorem Decimal.nearest_eq_of_ratio {decimal : Decimal} {value : Binary64}
    (sameSign : decimal.negative = value.isNegative) (finite : value.isFinite = true)
    (nonzero : value.index ≠ 0) (notHuge : decimal.exponent ≤ 400)
    (notTiny : -400 ≤ decimal.exponent + decimal.units.log2)
    (sameRatio : decimal.units * 10 ^ decimal.exponent.toNat * 2 ^ (-value.exponent).toNat =
      value.significand * 2 ^ value.exponent.toNat * 10 ^ (-decimal.exponent).toNat) :
    decimal.nearest = value := by
  have significandPositive := Binary64.significand_pos nonzero
  have valuePositive : 0 < value.significand * 2 ^ value.exponent.toNat :=
    Nat.mul_pos significandPositive (Nat.two_pow_pos _)
  have tenPositive : ∀ exponent, 0 < 10 ^ exponent := fun exponent => Nat.pow_pos (by omega)
  have units : decimal.units ≠ 0 := by
    intro noUnits
    rw [noUnits, Nat.zero_mul, Nat.zero_mul] at sameRatio
    exact (Nat.mul_pos valuePositive (tenPositive _)).ne sameRatio
  have below : value.index ≤ Binary64.infinityIndex := by
    have := of_decide_eq_true finite
    omega
  have sameIndex : nearestIndex (decimal.units * 10 ^ decimal.exponent.toNat)
      (10 ^ (-decimal.exponent).toNat) = value.index := by
    rw [← Binary64.nearestIndex_binary nonzero]
    exact nearestIndex_congr (Nat.mul_pos (Nat.pos_of_ne_zero units) (tenPositive _)) (tenPositive _)
      valuePositive (Nat.two_pow_pos _) sameRatio
  rw [nearest, if_neg units, if_neg (by omega), if_neg (by omega)]
  simp only [Nat.pow_eq]
  rw [sameIndex, Nat.min_eq_left below, sameSign, value.ofIndex_index]

end Telemetry
