import Telemetry.Json.Fields
import Telemetry.Json.Printer
import Telemetry.Proofs.Json.Token
import Telemetry.Proofs.Number.Shortest

/-!
# Numbers in JSON

Every numeral without idle zeros in front is a number literal, so what is written for counts and for finite
binary values is well formed, and it is read back as what it was written for.
-/

namespace Telemetry

namespace Json

open Decimal (digitsOf numeral placesText powerText signed)

/-! ## Numerals as literals -/

/-- The part of a literal after its first digit. -/
def afterFirst (digit : Char) : NumberPart :=
  if digit = '0' then .zero else .whole

/-- A literal begins with a digit, or with a minus and a digit. -/
theorem run?_signed {digit : Char} (isDigit : digit.isDigit = true) (negative : Bool) (rest : List Char) :
    NumberPart.run? (signed negative (digit :: rest)) =
      rest.foldlM NumberPart.next? (afterFirst digit) := by
  have notMinus : digit ≠ '-' := by
    rintro rfl
    cases isDigit
  cases negative with
  | false =>
    have starts : NumberPart.start? digit = some (afterFirst digit) := by
      unfold NumberPart.start? afterFirst
      rw [if_neg notMinus]
      simp only [isDigit, if_true]
      split <;> rfl
    rw [signed, if_neg (by decide), NumberPart.run?, starts, Option.bind_some]
  | true =>
    have starts : NumberPart.start? '-' = some .minus := rfl
    have goesOn : NumberPart.minus.next? digit = some (afterFirst digit) := by
      unfold NumberPart.next? afterFirst
      dsimp only
      simp only [isDigit, if_true]
      split <;> rfl
    rw [signed, if_pos rfl, NumberPart.run?, starts, Option.bind_some, foldlM_cons_of_eq_some goesOn]

/-- More digits change nothing once digits are being read. -/
theorem foldlM_digits {part : NumberPart} (reads : part = .whole ∨ part = .fraction ∨ part = .power)
    {digits : List Char} (areDigits : ∀ digit ∈ digits, digit.isDigit = true) :
    digits.foldlM NumberPart.next? part = some part := by
  induction digits with
  | nil => rfl
  | cons digit digits inductionHypothesis =>
    have isDigit := areDigits digit List.mem_cons_self
    have stepped : part.next? digit = some part := by
      rcases reads with rfl | rfl | rfl <;> simp [NumberPart.next?, isDigit]
    rw [foldlM_cons_of_eq_some stepped]
    exact inductionHypothesis fun other listed => areDigits other (List.mem_cons_of_mem _ listed)

/-- A point with digits after it may follow the digits in front. -/
theorem foldlM_placesText {part : NumberPart} (reads : part = .zero ∨ part = .whole) {places : List Char}
    (areDigits : ∀ digit ∈ places, digit.isDigit = true) :
    ∃ next, (placesText places).foldlM NumberPart.next? part = some next ∧
      (next = .zero ∨ next = .whole ∨ next = .fraction) := by
  unfold placesText
  split
  · exact ⟨part, rfl, by tauto⟩
  · rename_i nonempty
    obtain ⟨first, rest, rfl⟩ := List.exists_cons_of_ne_nil nonempty
    have point : part.next? '.' = some .point := by
      rcases reads with rfl | rfl <;> rfl
    have digit : NumberPart.point.next? first = some .fraction := by
      simp [NumberPart.next?, areDigits first List.mem_cons_self]
    refine ⟨.fraction, ?_, .inr (.inr rfl)⟩
    rw [foldlM_cons_of_eq_some point, foldlM_cons_of_eq_some digit]
    exact foldlM_digits (.inr (.inl rfl)) fun other listed => areDigits other (List.mem_cons_of_mem _ listed)

/-- A power of ten may follow all digits. -/
theorem foldlM_powerText {part : NumberPart} (reads : part = .zero ∨ part = .whole ∨ part = .fraction)
    (power : Option Int) :
    ∃ next, (powerText power).foldlM NumberPart.next? part = some next ∧ next.isComplete = true := by
  cases power with
  | none =>
    refine ⟨part, rfl, ?_⟩
    rcases reads with rfl | rfl | rfl <;> rfl
  | some power =>
    obtain ⟨first, rest, digits⟩ := List.exists_cons_of_ne_nil (Decimal.digitsOf_ne_nil power.natAbs)
    have areDigits : ∀ digit ∈ first :: rest, digit.isDigit = true := by
      rw [← digits]
      exact fun _ => Decimal.isDigit_of_mem_digitsOf
    have mark : part.next? 'e' = some .mark := by
      rcases reads with rfl | rfl | rfl <;> rfl
    have sign : NumberPart.mark.next? (if power < 0 then '-' else '+') = some .markSign := by
      split <;> rfl
    have digit : NumberPart.markSign.next? first = some .power := by
      simp [NumberPart.next?, areDigits first List.mem_cons_self]
    refine ⟨.power, ?_, rfl⟩
    rw [powerText, digits, foldlM_cons_of_eq_some mark, foldlM_cons_of_eq_some sign,
      foldlM_cons_of_eq_some digit]
    exact foldlM_digits (.inr (.inr rfl)) fun other listed => areDigits other (List.mem_cons_of_mem _ listed)

/-- A numeral is a number literal if a zero in front stands alone. -/
theorem isNumber_numeral (negative : Bool) {whole places : List Char} (power : Option Int)
    (nonempty : whole ≠ []) (wholeDigits : ∀ digit ∈ whole, digit.isDigit = true)
    (placesDigits : ∀ digit ∈ places, digit.isDigit = true)
    (leadingZero : whole.head? = some '0' → whole = ['0']) :
    IsNumber (numeral negative whole places power) := by
  obtain ⟨first, rest, rfl⟩ := List.exists_cons_of_ne_nil nonempty
  have begun : rest.foldlM NumberPart.next? (afterFirst first) = some (afterFirst first) := by
    by_cases zero : first = '0'
    · subst zero
      have alone := leadingZero rfl
      rw [List.cons.injEq] at alone
      rw [alone.2]
      rfl
    · exact foldlM_digits (.inl (if_neg zero)) fun other listed =>
        wholeDigits other (List.mem_cons_of_mem _ listed)
  have reads : afterFirst first = .zero ∨ afterFirst first = .whole := by
    unfold afterFirst
    split
    · exact .inl rfl
    · exact .inr rfl
  obtain ⟨middle, places, readsPlaces⟩ := foldlM_placesText reads placesDigits
  obtain ⟨last, power, complete⟩ := foldlM_powerText readsPlaces power
  refine ⟨last, ?_, complete⟩
  rw [numeral, List.cons_append, run?_signed (wholeDigits first List.mem_cons_self),
    foldlM_append_of_eq_some begun, foldlM_append_of_eq_some places, power]

/-! ## Counts -/

theorem signedDigits_eq_signed (value : Int) :
    Decimal.signedDigits value = signed (decide (value < 0)) (digitsOf value.natAbs) := by
  simp [Decimal.signedDigits, signed]

theorem isNumber_signedDigits (value : Int) : IsNumber (Decimal.signedDigits value) := by
  have isNumeral : Decimal.signedDigits value =
      numeral (decide (value < 0)) (digitsOf value.natAbs) [] none := by
    rw [signedDigits_eq_signed, numeral, placesText, if_pos rfl, powerText, List.nil_append,
      List.append_nil]
  rw [isNumeral]
  exact isNumber_numeral _ none (Decimal.digitsOf_ne_nil _) (fun _ => Decimal.isDigit_of_mem_digitsOf)
    (by simp) Decimal.head?_digitsOf_eq_zero

/-- A whole number is read back from its digits. -/
theorem integer?_signedDigits (value : Int) : Count.integer? (Decimal.signedDigits value) = some value := by
  have plain : ∀ digit ∈ (digitsOf value.natAbs).head?, digit.isDigit = true :=
    fun digit first => Decimal.isDigit_of_mem_digitsOf (List.mem_of_mem_head? first)
  rw [Count.integer?, signedDigits_eq_signed, Decimal.takeSign_signed plain]
  by_cases negative : value < 0
  · have sameSize : -(value.natAbs : Int) = value := by omega
    simpa [negative] using sameSize
  · have sameSize : (value.natAbs : Int) = value := by omega
    simpa [negative] using sameSize

/-- No whole number is written as negative zero. -/
theorem signedDigits_ne_negativeZero (value : Int) : Decimal.signedDigits value ≠ ['-', '0'] := by
  intro negativeZero
  have read := integer?_signedDigits value
  rw [negativeZero] at read
  have zero : value = 0 := (Option.some.inj read).symm
  rw [zero] at negativeZero
  revert negativeZero
  decide

/-- A count is read back. -/
theorem count?_ofInt (count : Count) : count? (ofInt count.toInt) = some count := by
  rw [count?, ofInt, integer?, if_neg (signedDigits_ne_negativeZero _), integer?_signedDigits,
    Option.bind_some, Count.ofInt?_toInt]

/-! ## Binary values -/

theorem isNumber_finiteText (layout : Layout) {value : Binary64} (finite : value.isFinite = true) :
    IsNumber (value.finiteText layout) := by
  obtain ⟨whole, places, power, extra, text, writes⟩ :=
    Decimal.text_eq_numeral layout (value.shortest layout.tie)
  rw [Binary64.finiteText, text]
  exact isNumber_numeral _ power writes.nonempty writes.wholeDigits writes.placesDigits
    (writes.leadingZero (Binary64.units_shortest finite))

/-- Every value that is read is finite. -/
theorem isFinite_of_binary64? {json : Json} {value : Binary64} (read : json.binary64? = some value) :
    value.isFinite = true := by
  cases json with
  | number literal => exact (Option.filter_eq_some_iff.1 read).2
  | _ => cases read

/-- A finite binary value is read back. -/
theorem binary64?_ofBinary64 {value : Binary64} (finite : value.isFinite = true) :
    binary64? (ofBinary64 value) = some value := by
  rw [ofBinary64, if_pos finite, binary64?, Binary64.ofText?_finiteText Layout.json finite,
    Option.filter_some, if_pos finite]

end Json

end Telemetry
