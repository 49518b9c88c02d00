import Telemetry.Number.Decimal

/-!
# Counts

A counter holds a whole number of the signed 64-bit range. Sums are exact: `add?` gives the sum when it
lies in the range and nothing otherwise, so a total never wraps.
-/

namespace Telemetry

/-- A whole number of the signed 64-bit range. -/
structure Count where
  toInt : Int
  least_le : -0x8000000000000000 ≤ toInt
  le_greatest : toInt ≤ 0x7fffffffffffffff
  deriving DecidableEq, Repr

namespace Count

@[ext]
theorem ext {first second : Count} (sameValue : first.toInt = second.toInt) : first = second := by
  cases first
  cases second
  simpa using sameValue

/-- The count with the given value, if it is in range. -/
def ofInt? (value : Int) : Option Count :=
  if inRange : -0x8000000000000000 ≤ value ∧ value ≤ 0x7fffffffffffffff then
    some ⟨value, inRange.1, inRange.2⟩
  else
    none

theorem ofInt?_eq_some_iff {value : Int} {count : Count} :
    ofInt? value = some count ↔ count.toInt = value := by
  unfold ofInt?
  split
  · next inRange =>
    constructor
    · intro sameCount
      cases sameCount
      rfl
    · intro sameValue
      exact congrArg some (ext sameValue.symm)
  · next outOfRange =>
    constructor
    · intro absurdity
      cases absurdity
    · intro sameValue
      exact absurd (sameValue ▸ ⟨count.least_le, count.le_greatest⟩) outOfRange

theorem ofInt?_eq_none_iff {value : Int} :
    ofInt? value = none ↔ value < -0x8000000000000000 ∨ 0x7fffffffffffffff < value := by
  unfold ofInt?
  split <;> simp <;> omega

@[simp]
theorem ofInt?_toInt (count : Count) : ofInt? count.toInt = some count :=
  ofInt?_eq_some_iff.2 rfl

instance : Inhabited Count := ⟨⟨0, by decide, by decide⟩⟩

/-- Zero, the total of a counter that nobody has added to. -/
def zero : Count := default

/-- The exact sum, if it is in range. -/
def add? (total delta : Count) : Option Count :=
  ofInt? (total.toInt + delta.toInt)

theorem add?_eq_some_iff {total delta sum : Count} :
    total.add? delta = some sum ↔ sum.toInt = total.toInt + delta.toInt :=
  ofInt?_eq_some_iff

/-- The whole number that a text of decimal digits with an optional sign writes. -/
def integer? (text : List Char) : Option Int :=
  let (negative, digits) := Decimal.takeSign text
  (Decimal.natural? digits).map fun value => if negative then -(value : Int) else value

/-- Reads a whole number in range, with an optional sign. -/
def ofText? (text : String) : Option Count :=
  (integer? text.toList).bind ofInt?

/-- The decimal digits of a count, with a sign in front if it is negative. -/
def text (count : Count) : String :=
  toString count.toInt

end Count

/-- The number of values of a word of 64 bits. -/
def wordLimit : Nat := 0x10000000000000000

/-- Reads a natural number below `bound`; a plus in front is allowed. -/
def boundedNatural? (bound : Nat) (text : String) : Option Nat :=
  let digits :=
    match text.toList with
    | '+' :: rest => rest
    | characters => characters
  (Decimal.natural? digits).bind fun value => if value < bound then some value else none

theorem lt_of_boundedNatural? {bound number : Nat} {text : String}
    (read : boundedNatural? bound text = some number) : number < bound := by
  obtain ⟨value, _, kept⟩ := Option.bind_eq_some_iff.1 read
  obtain ⟨below, same⟩ := Option.ite_none_right_eq_some.1 kept
  cases same
  exact below

end Telemetry
