import Telemetry.Number.Count
import Telemetry.Proofs.Json.Number
import Telemetry.Proofs.Text.Ascii

/-!
# The texts of numbers

A number that is shown to people is read back as it was, if it is finite, and nothing in its text divides a path. No
text of a number is long, in any layout.
-/

namespace Telemetry

/-! ## What numerals are made of -/

namespace Decimal

/-- What numerals are written with. -/
def IsOfNumeral (character : Char) : Prop :=
  character.isDigit = true ∨ character ∈ ['-', '+', '.', 'e']

theorem mem_numeral {negative : Bool} {whole places : List Char} {power : Option Int}
    (wholeDigits : ∀ character ∈ whole, character.isDigit = true)
    (placesDigits : ∀ character ∈ places, character.isDigit = true) {character : Char}
    (listed : character ∈ numeral negative whole places power) : IsOfNumeral character := by
  have inPlaces : character ∈ placesText places → IsOfNumeral character := by
    unfold placesText
    split
    · nofun
    · intro listed
      rcases List.mem_cons.1 listed with rfl | isPlace
      · exact .inr (by decide)
      · exact .inl (placesDigits character isPlace)
  have inPower : character ∈ powerText power → IsOfNumeral character := by
    cases power with
    | none => nofun
    | some power =>
      intro listed
      rcases List.mem_cons.1 listed with rfl | listed
      · exact .inr (by decide)
      rcases List.mem_cons.1 listed with isSign | isDigit
      · split at isSign <;> exact .inr (by simp [isSign])
      · exact .inl (isDigit_of_mem_digitsOf isDigit)
  have unsigned : character ∈ whole ++ (placesText places ++ powerText power) → IsOfNumeral character := by
    intro listed
    rcases List.mem_append.1 listed with isWhole | listed
    · exact .inl (wholeDigits character isWhole)
    · exact (List.mem_append.1 listed).elim inPlaces inPower
  cases negative with
  | false => exact unsigned listed
  | true =>
    rcases List.mem_cons.1 listed with rfl | listed
    · exact .inr (by decide)
    · exact unsigned listed

end Decimal

/-! ## Reading back -/

variable {value : Binary64}

namespace Binary64

open Decimal

theorem text_of_isFinite (finite : value.isFinite = true) :
    value.text = String.ofList (value.finiteText Layout.plain) := by
  have isNumber : value.isNaN = false := by
    rw [isFinite, decide_eq_true_iff] at finite
    exact decide_eq_false (by omega)
  rw [text, isNumber, finite]
  rfl

/-- What begins with a digit is not one of the names. -/
theorem isNamed_eq_false (name : String) {digit : Char} (isDigit : digit.isDigit = true) (rest : List Char)
    (isName : name.toList.head? = some 'i' ∨ name.toList.head? = some 'n') :
    isNamed name (digit :: rest) = false := by
  have noUpper : ¬(digit.val ≥ 'A'.val ∧ digit.val ≤ 'Z'.val) := by
    simp only [Char.isDigit, Bool.and_eq_true, decide_eq_true_eq] at isDigit
    intro upper
    exact absurd (UInt32.le_trans upper.1 isDigit.2) (by decide)
  have asItIs : digit.toLower = digit := dif_neg noUpper
  have isOther : digit.toLower ≠ 'i' ∧ digit.toLower ≠ 'n' := by
    rw [asItIs]
    constructor
    · rintro rfl
      cases isDigit
    · rintro rfl
      cases isDigit
  rw [isNamed, beq_eq_false_iff_ne]
  intro same
  have sameHead := congrArg List.head? same
  rw [List.map_cons, List.head?_cons] at sameHead
  rcases isName with first | first
  · exact isOther.1 (Option.some.inj (sameHead.trans first))
  · exact isOther.2 (Option.some.inj (sameHead.trans first))

/-- The text of a finite value is read back. -/
theorem ofText?_text (finite : value.isFinite = true) : ofText? value.text = some value := by
  obtain ⟨whole, places, power, extra, isNumeral, writes⟩ :=
    text_eq_numeral Layout.plain (value.shortest Layout.plain.tie)
  obtain ⟨first, others, isWhole⟩ := List.exists_cons_of_ne_nil writes.nonempty
  have isDigit : first.isDigit = true := writes.wholeDigits first (by simp [isWhole])
  let rest := others ++ (placesText places ++ powerText power)
  have isSigned : value.finiteText Layout.plain =
      signed (value.shortest Layout.plain.tie).negative (first :: rest) := by
    rw [finiteText, isNumeral, numeral, isWhole]
    rfl
  have taken : takeSign (value.finiteText Layout.plain) =
      ((value.shortest Layout.plain.tie).negative, first :: rest) := by
    rw [isSigned]
    refine takeSign_signed fun character isFirst => ?_
    rw [← Option.mem_some.1 isFirst]
    exact isDigit
  have notInf := isNamed_eq_false "inf" isDigit rest (.inl rfl)
  have notInfinity := isNamed_eq_false "infinity" isDigit rest (.inl rfl)
  have notNan := isNamed_eq_false "nan" isDigit rest (.inr rfl)
  rw [text_of_isFinite finite, ofText?, String.toList_ofList, taken]
  simp only [notInf, notInfinity, notNan]
  exact ofText?_finiteText Layout.plain finite

theorem mem_text (finite : value.isFinite = true) {character : Char} (listed : character ∈ value.text.toList) :
    IsOfNumeral character := by
  obtain ⟨whole, places, power, extra, isNumeral, writes⟩ :=
    text_eq_numeral Layout.plain (value.shortest Layout.plain.tie)
  rw [text_of_isFinite finite, String.toList_ofList, finiteText, isNumeral] at listed
  exact mem_numeral writes.wholeDigits writes.placesDigits listed

end Binary64

/-! ## Counts and lengths -/

theorem toList_toString (number : Nat) : (toString number).toList = Decimal.digitsOf number :=
  (congrArg String.toList Nat.toString_eq_ofList_toDigits).trans String.toList_ofList

theorem isVisible_toString (number : Nat) : Text.IsVisible (toString number) := by
  intro character listed
  rw [toList_toString] at listed
  obtain ⟨value, small, isDigit⟩ := Json.toNat_of_isDigit (Decimal.isDigit_of_mem_digitsOf listed)
  omega

/-- The text of a number below the bound is read back. -/
theorem boundedNatural?_toString {bound number : Nat} (below : number < bound) :
    boundedNatural? bound (toString number) = some number := by
  have noSign : ∀ rest, Decimal.digitsOf number ≠ '+' :: rest := by
    intro rest same
    have isDigit := Decimal.isDigit_of_mem_digitsOf (same ▸ List.mem_cons_self : '+' ∈ Decimal.digitsOf number)
    cases isDigit
  rw [boundedNatural?, toList_toString]
  split
  · next rest same => exact absurd same (noSign rest)
  · rw [Decimal.natural?_digitsOf, Option.bind_some, if_pos below]

namespace Count

theorem toList_text (count : Count) : count.text.toList = Decimal.signedDigits count.toInt := by
  unfold text
  cases count.toInt with
  | ofNat magnitude =>
    have notNegative : ¬Int.ofNat magnitude < 0 := Int.not_lt.2 (Int.natCast_nonneg magnitude)
    rw [Decimal.signedDigits, if_neg notNegative]
    exact toList_toString magnitude
  | negSucc magnitude =>
    have written : toString (Int.negSucc magnitude) = "-" ++ toString (magnitude + 1) := rfl
    rw [Decimal.signedDigits, if_pos (Int.negSucc_lt_zero magnitude), written, String.toList_append,
      toList_toString]
    rfl

/-- The text of a count is read back. -/
theorem ofText?_text (count : Count) : ofText? count.text = some count := by
  rw [ofText?, toList_text, Json.integer?_signedDigits, Option.bind_some, ofInt?_toInt]

end Count

/-! ## Lengths -/

namespace Decimal

theorem length_digitsOf_le {value bound : Nat} (small : value < 2 ^ bound) :
    (digitsOf value).length ≤ bound + 1 := by
  induction bound generalizing value with
  | zero =>
    have isZero : value = 0 := by omega
    rw [isZero]
    decide
  | succ bound inductionHypothesis =>
    rw [digitsOf, Nat.toDigits_eq_if (by decide)]
    split
    · simp
    · have upper : value / 10 < 2 ^ bound := by omega
      have shorter := inductionHypothesis upper
      simp only [List.length_append, List.length_singleton]
      exact Nat.succ_le_succ shorter

theorem length_signed_le (negative : Bool) (digits : List Char) :
    (signed negative digits).length ≤ digits.length + 1 := by
  cases negative with
  | false => exact Nat.le_succ _
  | true => exact Nat.le_refl _

theorem length_positionalText_le (pointZero : Bool) (digits : List Char) (exponent : Int) :
    (positionalText pointZero digits exponent).length ≤ digits.length + exponent.natAbs + 3 := by
  unfold positionalText
  split
  · have twoAtMost : (if pointZero then ['.', '0'] else []).length ≤ 2 := by
      cases pointZero <;> simp
    simp only [List.length_append, List.length_replicate]
    omega
  · dsimp only
    split
    · simp only [List.length_append, List.length_take, List.length_cons, List.length_drop]
      omega
    · simp only [List.length_append, List.length_cons, List.length_replicate]
      omega

theorem length_scientificText_le (digits : List Char) (leading : Int) :
    (scientificText digits leading).length ≤ digits.length + leading.natAbs + 5 := by
  have power : (digitsOf leading.natAbs).length ≤ leading.natAbs + 1 := length_digitsOf_le Nat.lt_two_pow_self
  have fraction : (if (digits.drop 1).isEmpty then [] else '.' :: digits.drop 1).length ≤ digits.length := by
    cases digits with
    | nil => exact Nat.le_refl _
    | cons first others =>
      rw [List.drop_one, List.tail_cons]
      split
      · exact Nat.zero_le _
      · exact Nat.le_refl _
  unfold scientificText
  simp only [List.length_append, List.length_cons, List.length_take]
  omega

theorem length_text_le (layout : Layout) (decimal : Decimal) :
    (decimal.text layout).length ≤ 2 * (digitsOf decimal.units).length + decimal.exponent.natAbs + 7 := by
  obtain ⟨unsigned, isSigned, inFull | scientific⟩ := text_eq_signed layout decimal
  · have unsignedLength := length_positionalText_le layout.pointZero (digitsOf decimal.units) decimal.exponent
    rw [isSigned, inFull]
    refine (length_signed_le _ _).trans ?_
    omega
  · have unsignedLength := length_scientificText_le (digitsOf decimal.units)
      (decimal.exponent + (digitsOf decimal.units).length - 1)
    have leading : (decimal.exponent + (digitsOf decimal.units).length - 1).natAbs ≤
        decimal.exponent.natAbs + (digitsOf decimal.units).length + 1 := by omega
    rw [isSigned, scientific]
    refine (length_signed_le _ _).trans ?_
    omega

theorem length_signedDigits_le (count : Count) : (signedDigits count.toInt).length ≤ 100 := by
  have least := count.least_le
  have greatest := count.le_greatest
  have small : count.toInt.natAbs < 2 ^ 64 := by omega
  have digits := length_digitsOf_le small
  rw [Json.signedDigits_eq_signed]
  refine (length_signed_le _ _).trans ?_
  omega

end Decimal

namespace Binary64

open Decimal

variable {tie : TieRule}

theorem exponent_le (finite : value.isFinite = true) : value.exponent ≤ 971 := by
  rw [isFinite, decide_eq_true_iff] at finite
  unfold exponent leastExponent
  unfold infinityIndex at finite
  unfold binade at *
  split <;> omega

theorem pow_ten_le (power : Nat) : 10 ^ power ≤ 2 ^ (4 * power) := by
  rw [Nat.pow_mul]
  exact Nat.pow_le_pow_left (by decide) power

theorem magnitude_lt (value : Binary64) :
    value.significand <<< value.exponent.toNat < 2 ^ (53 + value.exponent.toNat) := by
  rw [Nat.shiftLeft_eq, Nat.pow_add]
  exact Nat.mul_lt_mul_of_pos_right (significand_lt value) (Nat.two_pow_pos _)

theorem units_gridPoint?_le {power : Int} {decimal : Decimal} (found : gridPoint? tie value power = some decimal) :
    decimal.units ≤ 2 ^ (53 + value.exponent.toNat + 4 * (-power).toNat) ∧ decimal.exponent = power := by
  have numerator : value.ratio.1 * Nat.pow 10 (-power).toNat <
      2 ^ (53 + value.exponent.toNat + 4 * (-power).toNat) := by
    rw [Nat.pow_add]
    exact Nat.mul_lt_mul_of_lt_of_le (magnitude_lt value) (pow_ten_le _) (Nat.two_pow_pos _)
  have quotient (denominator : Nat) := Nat.div_le_self (value.ratio.1 * Nat.pow 10 (-power).toNat) denominator
  unfold gridPoint? at found
  dsimp only at found
  split at found
  · cases found
    exact ⟨(quotient _).trans numerator.le, rfl⟩
  · split at found
    · cases found
      exact ⟨Nat.succ_le_of_lt ((quotient _).trans_lt numerator), rfl⟩
    · cases found

theorem coarsestPower_bounds (finite : value.isFinite = true) :
    -320 ≤ value.coarsestPower ∧ value.coarsestPower ≤ 330 := by
  have upper := exponent_le finite
  have lower := leastExponent_le value
  have digits : value.significand.log2 ≤ 53 := by
    by_cases zero : value.significand = 0
    · simp [zero]
    · exact ((Nat.log2_lt zero).2 (significand_lt value)).le
  unfold leastExponent at lower
  unfold coarsestPower
  omega

/-- The decimal form of a value has some thousands of digits at most, and its power of ten is not far off. -/
theorem shortest_bounds (tie : TieRule) (finite : value.isFinite = true) :
    ∃ bound ≤ 6000, (value.shortest tie).units < 2 ^ bound ∧ (value.shortest tie).exponent.natAbs ≤ 1100 := by
  have upper := exponent_le finite
  have lower := leastExponent_le value
  unfold leastExponent at lower
  unfold shortest
  split
  · exact ⟨0, Nat.zero_le _, Nat.one_pos, Nat.zero_le _⟩
  dsimp only
  cases found : (List.range 30).findSome? fun (step : Nat) => gridPoint? tie value (value.coarsestPower - step) with
  | none =>
    have fives : 5 ^ (-value.exponent).toNat ≤ 2 ^ (4 * (-value.exponent).toNat) :=
      (Nat.pow_le_pow_left (by decide) _).trans (pow_ten_le _)
    have exactUnits : value.exactDecimal.units <
        2 ^ (53 + value.exponent.toNat + 4 * (-value.exponent).toNat) := by
      rw [Nat.pow_add]
      exact Nat.mul_lt_mul_of_lt_of_le (magnitude_lt value) fives (Nat.two_pow_pos _)
    have exactExponent : value.exactDecimal.exponent.natAbs ≤ 1100 := by
      change (-((-value.exponent).toNat : Int)).natAbs ≤ 1100
      omega
    exact ⟨_, by omega, exactUnits, exactExponent⟩
  | some decimal =>
    obtain ⟨step, isStep, point⟩ := List.exists_of_findSome?_eq_some found
    have steps := List.mem_range.1 isStep
    obtain ⟨units, power⟩ := units_gridPoint?_le point
    obtain ⟨coarse, fine⟩ := coarsestPower_bounds finite
    have larger := Nat.pow_lt_pow_succ (a := 2) (n := 53 + value.exponent.toNat +
      4 * (-(value.coarsestPower - step)).toNat) (by decide)
    refine ⟨_, by omega, units.trans_lt larger, ?_⟩
    change decimal.exponent.natAbs ≤ 1100
    omega

/-- No text of a finite value is long. -/
theorem length_finiteText_le (layout : Layout) (finite : value.isFinite = true) :
    (value.finiteText layout).length ≤ 20000 := by
  obtain ⟨bound, few, units, exponent⟩ := shortest_bounds layout.tie finite
  have digits := length_digitsOf_le units
  have text := length_text_le layout (value.shortest layout.tie)
  unfold finiteText
  omega

end Binary64

end Telemetry
