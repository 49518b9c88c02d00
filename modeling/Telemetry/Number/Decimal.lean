import Telemetry.Number.Binary64

/-!
# Decimal numbers

A decimal number is a sign, a natural number of units and the power of ten that one unit is. `ofText?`
reads the usual notations, and `nearest` gives the binary value closest to a decimal number, a half
going to the even neighbour; past the largest finite value it gives infinity.
-/

namespace Telemetry

/-- The number `units * 10 ^ exponent`, with a sign. -/
structure Decimal where
  negative : Bool
  units : Nat
  exponent : Int
  deriving DecidableEq, Inhabited, Repr

namespace Decimal

/-- The value of a decimal digit. -/
def digit? (character : Char) : Option Nat :=
  if '0' ≤ character ∧ character ≤ '9' then some (character.toNat - '0'.toNat) else none

/-- Splits off the leading digits: the number they write after `start`, how many there are, and the rest. -/
def takeDigits (start count : Nat) : List Char → Nat × Nat × List Char
  | [] => (start, count, [])
  | character :: rest =>
    match digit? character with
    | some value => takeDigits (10 * start + value) (count + 1) rest
    | none => (start, count, character :: rest)

/-- A sign in front, plus when there is none. -/
def takeSign : List Char → Bool × List Char
  | '-' :: rest => (true, rest)
  | '+' :: rest => (false, rest)
  | text => (false, text)

/-- A natural number in decimal digits, of which there must be one at least. -/
def natural? (text : List Char) : Option Nat :=
  match takeDigits 0 0 text with
  | (value, _ + 1, []) => some value
  | _ => none

/-- The part after the digits: nothing, or the letter `e` and a whole number. -/
def exponentPart? : List Char → Option Int
  | [] => some 0
  | mark :: rest =>
    if mark = 'e' ∨ mark = 'E' then
      let (negative, digits) := takeSign rest
      (natural? digits).map fun value => if negative then -(value : Int) else value
    else
      none

/-- Reads `[sign] digits [. digits] [e [sign] digits]`, where either side of the point may be empty but
not both. -/
def ofText? (text : List Char) : Option Decimal :=
  let (negative, unsigned) := takeSign text
  let (whole, wholeCount, afterWhole) := takeDigits 0 0 unsigned
  let (units, places, afterPlaces) :=
    match afterWhole with
    | '.' :: rest => takeDigits whole 0 rest
    | rest => (whole, 0, rest)
  if wholeCount + places = 0 then
    none
  else
    (exponentPart? afterPlaces).map fun exponent => ⟨negative, units, exponent - places⟩

/-! ## Rounding to binary -/

/-- The natural number nearest to `numerator / denominator`, a half going to the even one. -/
def roundHalfEven (numerator denominator : Nat) : Nat :=
  let quotient := numerator / denominator
  let twice := 2 * (numerator % denominator)
  if twice < denominator ∨ twice = denominator ∧ quotient % 2 = 0 then quotient else quotient + 1

/-- The largest `power` with `2 ^ power * denominator ≤ numerator`, for positive numbers. -/
def binaryLog (numerator denominator : Nat) : Int :=
  let guess : Int := (numerator.log2 : Int) - denominator.log2
  if denominator <<< guess.toNat ≤ numerator <<< (-guess).toNat then guess else guess - 1

/-- The place on the number line of the magnitude nearest to a positive ratio. -/
def nearestIndex (numerator denominator : Nat) : Nat :=
  let exponent := max Binary64.leastExponent (binaryLog numerator denominator - 52)
  let significand := roundHalfEven (numerator <<< (-exponent).toNat) (denominator <<< exponent.toNat)
  (exponent - Binary64.leastExponent).toNat * Binary64.binade + significand

/-- The binary value closest to a decimal number. The first two cases are far outside the range of the
format and spare the powers of ten. -/
def nearest (decimal : Decimal) : Binary64 :=
  if decimal.units = 0 then
    Binary64.zero decimal.negative
  else if 400 < decimal.exponent then
    Binary64.infinity decimal.negative
  else if decimal.exponent + decimal.units.log2 < -400 then
    Binary64.zero decimal.negative
  else
    let index :=
      nearestIndex (decimal.units * Nat.pow 10 decimal.exponent.toNat)
        (Nat.pow 10 (-decimal.exponent).toNat)
    Binary64.ofIndex decimal.negative (min index Binary64.infinityIndex)

end Decimal

namespace Binary64

/-- Whether `text` is `name` in any letter case of ASCII. -/
def isNamed (name : String) (text : List Char) : Bool :=
  text.map Char.toLower == name.toList

/-- Reads a decimal number, or one of the names `inf`, `infinity` and `nan` with an optional sign. -/
def ofText? (text : String) : Option Binary64 :=
  let (negative, unsigned) := Decimal.takeSign text.toList
  if isNamed "inf" unsigned || isNamed "infinity" unsigned then
    some (infinity negative)
  else if isNamed "nan" unsigned then
    some nan
  else
    (Decimal.ofText? text.toList).map Decimal.nearest

end Binary64

end Telemetry
