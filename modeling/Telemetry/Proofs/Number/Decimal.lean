import Telemetry.Number.Shortest

/-!
# Reading numerals

A numeral is a sign, digits, perhaps a point with digits after it, and perhaps a power of ten. Whatever the
digits before the point are, it is read as the number that all its digits write together, with the power of
ten less the number of places after the point.
-/

namespace Telemetry.Decimal

/-! ## Digits -/

theorem digit?_of_isDigit {character : Char} (digit : character.isDigit = true) :
    digit? character = some (character.toNat - '0'.toNat) := by
  have bounds : '0' ≤ character ∧ character ≤ '9' := by
    simpa [Char.isDigit, Char.le_def] using digit
  rw [digit?, if_pos bounds]

/-- What follows a run of digits and does not belong to it. -/
def EndsDigits (rest : List Char) : Prop :=
  ∀ character ∈ rest.head?, digit? character = none

theorem endsDigits_nil : EndsDigits [] := by
  simp [EndsDigits]

theorem endsDigits_cons {character : Char} (foreign : digit? character = none) (rest : List Char) :
    EndsDigits (character :: rest) := by
  simpa [EndsDigits] using foreign

/-- A run of digits is taken as a whole. -/
theorem takeDigits_append {digits rest : List Char}
    (areDigits : ∀ character ∈ digits, character.isDigit = true) (ends : EndsDigits rest)
    (start count : Nat) :
    takeDigits start count (digits ++ rest) =
      (Nat.ofDigitChars 10 digits start, count + digits.length, rest) := by
  induction digits generalizing start count with
  | nil =>
    cases rest with
    | nil => rfl
    | cons character rest =>
      have foreign : digit? character = none := ends character (by simp)
      simp [takeDigits, foreign]
  | cons character digits inductionHypothesis =>
    have first := digit?_of_isDigit (areDigits character List.mem_cons_self)
    have others := inductionHypothesis fun other listed => areDigits other (List.mem_cons_of_mem _ listed)
    rw [List.cons_append, takeDigits, first]
    dsimp only
    rw [others, Nat.ofDigitChars_cons, List.length_cons]
    simp only [Prod.mk.injEq, true_and, and_true]
    omega

/-- Some digits alone write a natural number. -/
theorem natural?_eq_some {digits : List Char} (nonempty : digits ≠ [])
    (areDigits : ∀ character ∈ digits, character.isDigit = true) :
    natural? digits = some (Nat.ofDigitChars 10 digits 0) := by
  have taken := takeDigits_append areDigits endsDigits_nil 0 0
  rw [List.append_nil] at taken
  obtain ⟨count, isCount⟩ : ∃ count, digits.length = count + 1 :=
    ⟨digits.length - 1, by have := List.length_pos_iff.2 nonempty; omega⟩
  rw [natural?, taken, isCount, Nat.zero_add]

/-- Nothing but digits is read as a natural number. -/
theorem isSome_digit?_of_natural? {text : List Char} {value : Nat} (read : natural? text = some value) :
    ∀ character ∈ text, (digit? character).isSome := by
  have taken : ∀ (digits : List Char) (start count : Nat), (takeDigits start count digits).2.2 = [] →
      ∀ character ∈ digits, (digit? character).isSome := by
    intro digits
    induction digits with
    | nil => nofun
    | cons first rest inductionHypothesis =>
      intro start count none character listed
      cases isDigit : digit? first with
      | none => simp [takeDigits, isDigit] at none
      | some value =>
        simp only [takeDigits, isDigit] at none
        rcases List.mem_cons.1 listed with rfl | later
        · rw [isDigit]
          rfl
        · exact inductionHypothesis _ _ none character later
  unfold natural? at read
  split at read
  · next all => exact taken text 0 0 (by rw [all])
  · cases read

theorem isDigit_of_mem_digitsOf {value : Nat} {character : Char} (listed : character ∈ digitsOf value) :
    character.isDigit = true :=
  Nat.isDigit_of_mem_toDigits (by decide) (by decide) listed

theorem digitsOf_ne_nil (value : Nat) : digitsOf value ≠ [] :=
  Nat.toDigits_ne_nil

theorem ofDigitChars_digitsOf (value : Nat) : Nat.ofDigitChars 10 (digitsOf value) 0 = value :=
  Nat.ofDigitChars_ten_toDigits

/-- The digits of a natural number are read back. -/
@[simp]
theorem natural?_digitsOf (value : Nat) : natural? (digitsOf value) = some value := by
  rw [natural?_eq_some (digitsOf_ne_nil value) fun _ => isDigit_of_mem_digitsOf, ofDigitChars_digitsOf]

/-- Only zero begins with the digit zero. -/
theorem head?_digitsOf {value : Nat} (positive : value ≠ 0) : (digitsOf value).head? ≠ some '0' := by
  induction value using Nat.strongRecOn with
  | ind value inductionHypothesis =>
    rw [digitsOf, Nat.toDigits_eq_if (by decide)]
    split
    · rename_i small
      have digits : ∀ value < 10, value ≠ 0 → Nat.digitChar value ≠ '0' := by decide
      simpa using digits value small positive
    · have upper := inductionHypothesis (value / 10) (by omega) (by omega)
      obtain ⟨first, rest, digits⟩ := List.exists_cons_of_ne_nil (digitsOf_ne_nil (value / 10))
      rw [digits] at upper
      rw [digitsOf] at digits
      rw [digits]
      exact upper

/-! ## Numerals -/

/-- A text with a minus in front or without. -/
def signed (negative : Bool) (text : List Char) : List Char :=
  if negative then '-' :: text else text

theorem takeSign_signed {negative : Bool} {text : List Char}
    (plain : ∀ character ∈ text.head?, character.isDigit = true) :
    takeSign (signed negative text) = (negative, text) := by
  cases negative with
  | true => rfl
  | false =>
    cases text with
    | nil => rfl
    | cons first rest =>
      have digit : first.isDigit = true := plain first (by simp)
      have notMinus : first ≠ '-' := by
        rintro rfl
        cases digit
      have notPlus : first ≠ '+' := by
        rintro rfl
        cases digit
      simp [signed, takeSign, notMinus, notPlus]

/-- The part of a numeral with the power of ten. -/
def powerText : Option Int → List Char
  | none => []
  | some power => 'e' :: (if power < 0 then '-' else '+') :: digitsOf power.natAbs

/-- The part of a numeral after the digits in front. -/
def placesText (places : List Char) : List Char :=
  if places = [] then [] else '.' :: places

/-- A numeral from its parts. -/
def numeral (negative : Bool) (whole places : List Char) (power : Option Int) : List Char :=
  signed negative (whole ++ (placesText places ++ powerText power))

theorem exponentPart?_powerText (power : Option Int) :
    exponentPart? (powerText power) = some (power.getD 0) := by
  cases power with
  | none => rfl
  | some power =>
    rw [powerText, exponentPart?, if_pos (.inl rfl), Option.getD_some]
    by_cases negative : power < 0
    · have sameSize : -(power.natAbs : Int) = power := by omega
      simp only [negative, if_true, takeSign, natural?_digitsOf]
      exact congrArg some sameSize
    · have sameSize : (power.natAbs : Int) = power := by omega
      simp only [negative, if_false, takeSign, natural?_digitsOf]
      exact congrArg some sameSize

theorem endsDigits_powerText (power : Option Int) : EndsDigits (powerText power) := by
  cases power with
  | none => exact endsDigits_nil
  | some power => exact endsDigits_cons rfl _

theorem endsDigits_placesText (places : List Char) {rest : List Char} (ends : EndsDigits rest) :
    EndsDigits (placesText places ++ rest) := by
  unfold placesText
  split
  · exact ends
  · exact endsDigits_cons rfl _

/-- A numeral is read as what its digits and its power of ten write. -/
theorem ofText?_numeral (negative : Bool) {whole places : List Char} (power : Option Int)
    (nonempty : whole ≠ []) (wholeDigits : ∀ character ∈ whole, character.isDigit = true)
    (placesDigits : ∀ character ∈ places, character.isDigit = true) :
    ofText? (numeral negative whole places power) =
      some ⟨negative, Nat.ofDigitChars 10 (whole ++ places) 0, power.getD 0 - places.length⟩ := by
  obtain ⟨first, rest, rfl⟩ := List.exists_cons_of_ne_nil nonempty
  have sign : takeSign (numeral negative (first :: rest) places power) =
      (negative, first :: rest ++ (placesText places ++ powerText power)) := by
    apply takeSign_signed
    intro character isFirst
    cases isFirst
    exact wholeDigits first List.mem_cons_self
  have takenWhole := takeDigits_append wholeDigits
    (endsDigits_placesText places (endsDigits_powerText power)) 0 0
  rw [ofText?, sign]
  dsimp only
  rw [takenWhole]
  cases places with
  | nil =>
    cases power with
    | none => simp [placesText, powerText, exponentPart?]
    | some power =>
      have read := exponentPart?_powerText (some power)
      simp only [powerText] at read
      simp [placesText, powerText, read]
  | cons place places =>
    have takenPlaces := takeDigits_append placesDigits (endsDigits_powerText power)
      (Nat.ofDigitChars 10 (first :: rest) 0) 0
    simp only [placesText, List.cons_append, if_neg (List.cons_ne_nil _ _)]
    rw [← List.cons_append, takenPlaces]
    simp only [exponentPart?_powerText, Nat.zero_add, List.length_cons, Option.map_some]
    rw [if_neg (by omega), ← List.cons_append, Nat.ofDigitChars_append]

end Telemetry.Decimal
