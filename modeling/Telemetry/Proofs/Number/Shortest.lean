import Telemetry.Proofs.Number.Decimal
import Telemetry.Proofs.Number.Rounding

/-!
# Reading back what was written

The text of a finite binary value is read back as that value, in any layout. The decimal number that is
written was chosen because it reads back; and its text, as a numeral, writes this number again, with zeros
behind it at most.
-/

namespace Telemetry

namespace Binary64

variable {tie : TieRule} {value : Binary64}

/-- A point of a grid is taken only if it reads back; and then it has the sign of the value. -/
theorem nearest_of_gridPoint? {power : Int} {decimal : Decimal}
    (found : gridPoint? tie value power = some decimal) :
    decimal.nearest = value ∧ decimal.negative = value.isNegative := by
  unfold gridPoint? at found
  dsimp only at found
  split at found
  · rename_i below
    cases found
    exact ⟨below.1, rfl⟩
  · split at found
    · rename_i above
      cases found
      exact ⟨above, rfl⟩
    · cases found

theorem units_exactDecimal (value : Binary64) : value.exactDecimal.units =
    value.significand * 2 ^ value.exponent.toNat * 5 ^ (-value.exponent).toNat := by
  simp only [exactDecimal, Nat.shiftLeft_eq, Nat.pow_eq]

/-- All its digits write a value exactly. -/
theorem nearest_exactDecimal (finite : value.isFinite = true) (nonzero : value.index ≠ 0) :
    value.exactDecimal.nearest = value := by
  have fives : 5 ^ (-value.exponent).toNat ≤ value.exactDecimal.units := by
    rw [units_exactDecimal]
    exact Nat.le_mul_of_pos_left _ (Nat.mul_pos (significand_pos nonzero) (Nat.two_pow_pos _))
  have large : 2 ^ (-value.exponent).toNat ≤ value.exactDecimal.units :=
    (Nat.pow_le_pow_left (by decide) _).trans fives
  have positive : value.exactDecimal.units ≠ 0 :=
    Nat.pos_iff_ne_zero.1 ((Nat.two_pow_pos _).trans_le large)
  have manyBits : (-value.exponent).toNat ≤ value.exactDecimal.units.log2 :=
    (Nat.le_log2 positive).2 large
  apply Decimal.nearest_eq_of_ratio rfl finite nonzero
  · simp only [exactDecimal]
    omega
  · simp only [exactDecimal] at manyBits ⊢
    omega
  · have ten : 10 ^ (-value.exponent).toNat = 5 ^ (-value.exponent).toNat * 2 ^ (-value.exponent).toNat := by
      rw [← Nat.mul_pow]
    have noUnits : (-((-value.exponent).toNat : Int)).toNat = 0 := by omega
    have allPlaces : (-(-((-value.exponent).toNat : Int))).toNat = (-value.exponent).toNat := by omega
    rw [units_exactDecimal]
    simp only [exactDecimal, noUnits, allPlaces, ten, pow_zero, mul_one]
    ring

/-- The shortest decimal number reads back. -/
theorem nearest_shortest (finite : value.isFinite = true) :
    (value.shortest tie).nearest = value ∧ (value.shortest tie).negative = value.isNegative := by
  unfold shortest
  split
  · rename_i zero
    refine ⟨?_, rfl⟩
    rw [Decimal.nearest, if_pos rfl, Binary64.zero, ← zero, ofIndex_index]
  · rename_i nonzero
    dsimp only
    cases found : (List.range 30).findSome? fun (step : Nat) =>
        gridPoint? tie value (value.coarsestPower - step) with
    | none => exact ⟨nearest_exactDecimal finite nonzero, rfl⟩
    | some decimal =>
      obtain ⟨step, _, point⟩ := List.exists_of_findSome?_eq_some found
      exact nearest_of_gridPoint? point

theorem index_zero (negative : Bool) : (zero negative).index = 0 := by
  cases negative <;> decide

/-- Only zero is written without a digit other than zero, and then without a power of ten. -/
theorem units_shortest (finite : value.isFinite = true) :
    (value.shortest tie).units ≠ 0 ∨ (value.shortest tie).exponent ≤ 0 := by
  by_cases zero : value.index = 0
  · right
    rw [shortest, if_pos zero]
  · left
    intro noUnits
    have reads := (@nearest_shortest tie value finite).1
    rw [Decimal.nearest, if_pos noUnits] at reads
    rw [← reads, index_zero] at zero
    exact zero rfl

end Binary64

namespace Decimal

/-- The parts of a numeral that writes a decimal number, with `extra` zeros after its digits. -/
structure Writes (decimal : Decimal) (whole places : List Char) (power : Option Int) (extra : Nat) :
    Prop where
  nonempty : whole ≠ []
  wholeDigits : ∀ character ∈ whole, character.isDigit = true
  placesDigits : ∀ character ∈ places, character.isDigit = true
  units : Nat.ofDigitChars 10 (whole ++ places) 0 = decimal.units * 10 ^ extra
  exponent : power.getD 0 - places.length = decimal.exponent - extra
  /-- Zeros are there only to get to the point, and one behind it. -/
  noZeros_or_noPlaces : extra = 0 ∨ 0 ≤ decimal.exponent ∧ -1 ≤ decimal.exponent - extra
  /-- A zero in front stands alone. -/
  leadingZero : decimal.units ≠ 0 ∨ decimal.exponent ≤ 0 → whole.head? = some '0' → whole = ['0']

variable {decimal : Decimal}

theorem head?_digitsOf_eq_zero {value : Nat} (zero : (digitsOf value).head? = some '0') :
    digitsOf value = ['0'] := by
  by_cases isZero : value = 0
  · rw [isZero]
    rfl
  · exact absurd zero (head?_digitsOf isZero)

theorem head?_digitsOf_append (value : Nat) (rest : List Char) :
    (digitsOf value ++ rest).head? = (digitsOf value).head? := by
  obtain ⟨first, others, digits⟩ := List.exists_cons_of_ne_nil (digitsOf_ne_nil value)
  rw [digits]
  rfl

/-- Digits with zeros up to the point, and behind it what the layout wants. -/
theorem writes_wholeNumber (pointZero : Bool) (large : 0 ≤ decimal.exponent) :
    ∃ places extra, positionalText pointZero (digitsOf decimal.units) decimal.exponent =
      digitsOf decimal.units ++ List.replicate decimal.exponent.toNat '0' ++
        (placesText places ++ powerText none) ∧
      decimal.Writes (digitsOf decimal.units ++ List.replicate decimal.exponent.toNat '0') places none
        extra := by
  have wholeDigits : ∀ character ∈ digitsOf decimal.units ++ List.replicate decimal.exponent.toNat '0',
      character.isDigit = true := by
    intro character listed
    rcases List.mem_append.1 listed with digit | zero
    · exact isDigit_of_mem_digitsOf digit
    · rw [List.eq_of_mem_replicate zero]
      rfl
  have nonempty : digitsOf decimal.units ++ List.replicate decimal.exponent.toNat '0' ≠ [] := by
    simp [digitsOf_ne_nil]
  have whole : Nat.ofDigitChars 10 (digitsOf decimal.units ++ List.replicate decimal.exponent.toNat '0') 0 =
      decimal.units * 10 ^ decimal.exponent.toNat := by
    rw [Nat.ofDigitChars_append, ofDigitChars_digitsOf, Nat.ofDigitChars_replicate_zero, Nat.mul_comm]
  have leadingZero : decimal.units ≠ 0 ∨ decimal.exponent ≤ 0 →
      (digitsOf decimal.units ++ List.replicate decimal.exponent.toNat '0').head? = some '0' →
        digitsOf decimal.units ++ List.replicate decimal.exponent.toNat '0' = ['0'] := by
    rintro (positive | small) zero
    · rw [head?_digitsOf_append] at zero
      exact absurd zero (head?_digitsOf positive)
    · rw [head?_digitsOf_append] at zero
      have noZeros : decimal.exponent.toNat = 0 := by omega
      rw [noZeros, List.replicate_zero, List.append_nil, head?_digitsOf_eq_zero zero]
  unfold positionalText
  rw [if_pos large]
  cases pointZero with
  | true =>
    refine ⟨['0'], decimal.exponent.toNat + 1, rfl, ⟨nonempty, wholeDigits, ?_, ?_, ?_, ?_, leadingZero⟩⟩
    · simp
    · rw [Nat.ofDigitChars_append, whole, pow_succ]
      simp [Nat.ofDigitChars_cons]
      ring
    · simp
      omega
    · right
      omega
  | false =>
    refine ⟨[], decimal.exponent.toNat, by simp [placesText, powerText],
      ⟨nonempty, wholeDigits, by simp, by rw [List.append_nil, whole], by simp; omega, ?_, leadingZero⟩⟩
    right
    omega

/-- Digits with the point among them, or behind zeros in front of them. -/
theorem writes_fraction (pointZero : Bool) (small : decimal.exponent < 0) :
    ∃ whole places, positionalText pointZero (digitsOf decimal.units) decimal.exponent =
      whole ++ (placesText places ++ powerText none) ∧ decimal.Writes whole places none 0 := by
  unfold positionalText
  rw [if_neg (by omega)]
  dsimp only
  split
  · rename_i inside
    have places : (digitsOf decimal.units).drop
        ((digitsOf decimal.units).length - (-decimal.exponent).toNat) ≠ [] := by
      apply List.length_pos_iff.1
      rw [List.length_drop]
      omega
    refine ⟨_, _, by rw [placesText, if_neg places, powerText, List.append_nil], ⟨?_, ?_, ?_, ?_, ?_, .inl rfl, ?_⟩⟩
    · apply List.length_pos_iff.1
      rw [List.length_take]
      omega
    · exact fun character listed => isDigit_of_mem_digitsOf (List.mem_of_mem_take listed)
    · exact fun character listed => isDigit_of_mem_digitsOf (List.mem_of_mem_drop listed)
    · rw [List.take_append_drop, ofDigitChars_digitsOf, pow_zero, Nat.mul_one]
    · rw [List.length_drop, Option.getD_none]
      omega
    · intro _ zero
      have first : (digitsOf decimal.units).head? = some '0' := by
        rw [← List.take_append_drop ((digitsOf decimal.units).length - (-decimal.exponent).toNat)
          (digitsOf decimal.units), List.head?_append, zero, Option.some_or]
      rw [head?_digitsOf_eq_zero first] at inside
      simp at inside
      omega
  · rename_i outside
    have places : List.replicate ((-decimal.exponent).toNat - (digitsOf decimal.units).length) '0' ++
        digitsOf decimal.units ≠ [] := by
      simp [digitsOf_ne_nil]
    refine ⟨['0'], _, by rw [placesText, if_neg places, powerText, List.append_nil]; rfl,
      ⟨by simp, by simp, ?_, ?_, ?_, .inl rfl, fun _ _ => rfl⟩⟩
    · intro character listed
      rcases List.mem_append.1 listed with zero | digit
      · rw [List.eq_of_mem_replicate zero]
        rfl
      · exact isDigit_of_mem_digitsOf digit
    · simp [Nat.ofDigitChars_append, Nat.ofDigitChars_cons, ofDigitChars_digitsOf]
    · rw [List.length_append, List.length_replicate, Option.getD_none]
      omega

/-- One digit, the others behind a point, and a power of ten. -/
theorem writes_scientific (decimal : Decimal) :
    ∃ whole places power,
      scientificText (digitsOf decimal.units) (decimal.exponent + (digitsOf decimal.units).length - 1) =
        whole ++ (placesText places ++ powerText power) ∧ decimal.Writes whole places power 0 := by
  obtain ⟨first, rest, digits⟩ := List.exists_cons_of_ne_nil (digitsOf_ne_nil decimal.units)
  have areDigits : ∀ character ∈ first :: rest, character.isDigit = true :=
    fun character listed => isDigit_of_mem_digitsOf (digits ▸ listed)
  refine ⟨[first], rest, some (decimal.exponent + (digitsOf decimal.units).length - 1), ?_, ?_⟩
  · simp only [scientificText, digits, List.take_succ_cons, List.take_zero, List.drop_succ_cons,
      List.drop_zero, placesText, powerText, List.isEmpty_iff, List.append_assoc]
  · refine ⟨by simp, ?_, ?_, ?_, ?_, .inl rfl, fun _ zero => ?_⟩
    · exact fun character listed => areDigits character (by simp [List.mem_singleton.1 listed])
    · exact fun character listed => areDigits character (List.mem_cons_of_mem _ listed)
    · rw [List.singleton_append, ← digits, ofDigitChars_digitsOf, pow_zero, Nat.mul_one]
    · rw [digits, List.length_cons, Option.getD_some]
      omega
    · rw [List.head?_cons, Option.some.injEq] at zero
      rw [zero]

/-- Apart from its sign, a decimal number is written out in full or with a power of ten. -/
theorem text_eq_signed (layout : Layout) (decimal : Decimal) :
    ∃ unsigned, decimal.text layout = signed decimal.negative unsigned ∧
      (unsigned = positionalText layout.pointZero (digitsOf decimal.units) decimal.exponent ∨
        unsigned = scientificText (digitsOf decimal.units)
          (decimal.exponent + (digitsOf decimal.units).length - 1)) := by
  refine ⟨_, rfl, ?_⟩
  split
  · exact .inl rfl
  · split
    · exact .inl rfl
    · exact .inr rfl

/-- In any layout a decimal number is written as a numeral. -/
theorem text_eq_numeral (layout : Layout) (decimal : Decimal) :
    ∃ whole places power extra, decimal.text layout = numeral decimal.negative whole places power ∧
      decimal.Writes whole places power extra := by
  obtain ⟨unsigned, isSigned, inFull | scientific⟩ := text_eq_signed layout decimal
  · by_cases small : decimal.exponent < 0
    · obtain ⟨whole, places, parts, writes⟩ := writes_fraction layout.pointZero small
      exact ⟨whole, places, none, 0, by rw [isSigned, inFull, parts, numeral], writes⟩
    · obtain ⟨places, extra, parts, writes⟩ :=
        writes_wholeNumber layout.pointZero (Int.not_lt.1 small)
      exact ⟨_, places, none, extra, by rw [isSigned, inFull, parts, numeral], writes⟩
  · obtain ⟨whole, places, power, parts, writes⟩ := writes_scientific decimal
    exact ⟨whole, places, power, 0, by rw [isSigned, scientific, parts, numeral], writes⟩

/-- Zeros up to the point and one behind it do not change the nearest binary value. -/
theorem nearest_zeros {extra : Nat} (notHuge : decimal.units = 0 ∨ decimal.exponent ≤ 400)
    (noZeros_or_noPlaces : extra = 0 ∨ 0 ≤ decimal.exponent ∧ -1 ≤ decimal.exponent - extra) :
    (⟨decimal.negative, decimal.units * 10 ^ extra, decimal.exponent - extra⟩ : Decimal).nearest =
      decimal.nearest := by
  rcases noZeros_or_noPlaces with rfl | ⟨whole, onePlace⟩
  · simp
  by_cases zero : decimal.units = 0
  · simp [nearest, zero]
  · have small := notHuge.resolve_left zero
    have tenPositive : ∀ exponent, 0 < 10 ^ exponent := fun exponent => Nat.pow_pos (by omega)
    have unitsPositive := Nat.pos_of_ne_zero zero
    have sameSize : extra + (decimal.exponent - extra).toNat =
        decimal.exponent.toNat + (-(decimal.exponent - extra)).toNat := by omega
    have noPlaces : (-decimal.exponent).toNat = 0 := by omega
    have sameIndex : nearestIndex (decimal.units * 10 ^ extra * 10 ^ (decimal.exponent - extra).toNat)
        (10 ^ (-(decimal.exponent - extra)).toNat) =
          nearestIndex (decimal.units * 10 ^ decimal.exponent.toNat) (10 ^ (-decimal.exponent).toNat) := by
      apply nearestIndex_congr (Nat.mul_pos (Nat.mul_pos unitsPositive (tenPositive _)) (tenPositive _))
        (tenPositive _) (Nat.mul_pos unitsPositive (tenPositive _)) (tenPositive _)
      rw [noPlaces, pow_zero, mul_one, mul_assoc, ← pow_add, sameSize, pow_add, mul_assoc]
    have longer : decimal.units * 10 ^ extra ≠ 0 := (Nat.mul_pos unitsPositive (tenPositive _)).ne'
    rw [nearest, nearest, if_neg longer, if_neg zero, if_neg (by dsimp only; omega),
      if_neg (by dsimp only; omega), if_neg (by omega), if_neg (by omega)]
    simp only [Nat.pow_eq]
    rw [sameIndex]

/-- The text of a finite value is read back, in any layout. -/
theorem nearest_of_ofText?_text (layout : Layout) {decimal : Decimal} {value : Binary64}
    (finite : value.isFinite = true) (reads : decimal.nearest = value) :
    (ofText? (decimal.text layout)).map nearest = some value := by
  obtain ⟨whole, places, power, extra, text, writes⟩ := text_eq_numeral layout decimal
  have notHuge : decimal.units = 0 ∨ decimal.exponent ≤ 400 := by
    by_contra huge
    obtain ⟨positive, large⟩ := not_or.1 huge
    have infinite : Binary64.isFinite (Binary64.infinity decimal.negative) = false := by
      cases decimal.negative <;> decide
    rw [nearest, if_neg positive, if_pos (Int.not_le.1 large)] at reads
    rw [← reads, infinite] at finite
    cases finite
  rw [text, ofText?_numeral _ _ writes.nonempty writes.wholeDigits writes.placesDigits, writes.units,
    writes.exponent, Option.map_some, nearest_zeros notHuge writes.noZeros_or_noPlaces, reads]

end Decimal

/-- The text of a finite value is read back, in any layout. -/
theorem Binary64.ofText?_finiteText (layout : Layout) {value : Binary64} (finite : value.isFinite = true) :
    (Decimal.ofText? (value.finiteText layout)).map Decimal.nearest = some value :=
  Decimal.nearest_of_ofText?_text layout finite (nearest_shortest finite).1

end Telemetry
