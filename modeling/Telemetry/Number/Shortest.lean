import Telemetry.Number.Decimal

/-!
# Shortest decimal text

`shortest` finds the fewest decimal digits that read back to a binary value. It walks the decimal grids
from coarse to fine and stops at the first one that has a point next to the value which reads back; of
two such points it takes the nearer one. Grids are nested, so no coarser grid has a point that reads
back, and a decimal number with fewer digits would lie on a coarser grid.

`Layout` holds what is left to a format: how an exact tie between two points goes, for which sizes the
number is written out in full, and how whole numbers and powers of ten look.
-/

namespace Telemetry

/-- Which of two equally near points is taken. -/
inductive TieRule
  | up
  | even
  deriving DecidableEq, Repr

/-- How a format writes a decimal number. -/
structure Layout where
  /-- Which of two equally near digit strings is written. -/
  tie : TieRule
  /-- Whether a whole number ends in `.0`. -/
  pointZero : Bool
  /-- The powers of ten of the leading digit for which the number is written out in full; `none` for all. -/
  positional : Option (Int × Int)
  deriving DecidableEq, Repr

namespace Layout

/-- Numbers for people are written out in full, at any size. -/
def plain : Layout := ⟨.up, false, none⟩

/-- Numbers in a JSON text keep a point or an exponent, so that they read as floating point. -/
def json : Layout := ⟨.even, true, some (-5, 15)⟩

end Layout

namespace Binary64

/-- The value as an exact ratio of natural numbers, without its sign. -/
def ratio (value : Binary64) : Nat × Nat :=
  (value.significand <<< value.exponent.toNat, 1 <<< (-value.exponent).toNat)

/-- The point nearest to `value` of the decimal grid of `power`, among those that read back. -/
def gridPoint? (tie : TieRule) (value : Binary64) (power : Int) : Option Decimal :=
  let (numerator, denominator) := value.ratio
  let numerator := numerator * Nat.pow 10 (-power).toNat
  let denominator := denominator * Nat.pow 10 power.toNat
  let below : Decimal := ⟨value.isNegative, numerator / denominator, power⟩
  let above : Decimal := ⟨value.isNegative, numerator / denominator + 1, power⟩
  let twice := 2 * (numerator % denominator)
  let belowIsNearer :=
    twice < denominator ∨ twice = denominator ∧ tie = .even ∧ below.units % 2 = 0
  if below.nearest = value ∧ (above.nearest ≠ value ∨ belowIsNearer) then
    some below
  else if above.nearest = value then
    some above
  else
    none

/-- A power of ten that exceeds any finite value with the given binary exponent. -/
def coarsestPower (value : Binary64) : Int :=
  (value.exponent + value.significand.log2) * 3 / 10 + 3

/-- The exact decimal digits of a finite value. -/
def exactDecimal (value : Binary64) : Decimal :=
  ⟨value.isNegative,
    (value.significand <<< value.exponent.toNat) * Nat.pow 5 (-value.exponent).toNat,
    -((-value.exponent).toNat : Int)⟩

/-- The fewest decimal digits that read back to a finite value. -/
def shortest (tie : TieRule) (value : Binary64) : Decimal :=
  if value.index = 0 then
    ⟨value.isNegative, 0, 0⟩
  else
    let start := value.coarsestPower
    ((List.range 30).findSome? fun (step : Nat) => gridPoint? tie value (start - step)).getD
      value.exactDecimal

end Binary64

namespace Decimal

/-- The digits of a natural number. -/
def digitsOf (value : Nat) : List Char :=
  Nat.toDigits 10 value

/-- A whole number in decimal digits. -/
def signedDigits (value : Int) : List Char :=
  if value < 0 then '-' :: digitsOf value.natAbs else digitsOf value.natAbs

/-- The number written out in full. -/
def positionalText (pointZero : Bool) (digits : List Char) (exponent : Int) : List Char :=
  if 0 ≤ exponent then
    digits ++ List.replicate exponent.toNat '0' ++ if pointZero then ['.', '0'] else []
  else
    let places := (-exponent).toNat
    if places < digits.length then
      digits.take (digits.length - places) ++ '.' :: digits.drop (digits.length - places)
    else
      '0' :: '.' :: (List.replicate (places - digits.length) '0' ++ digits)

/-- The number written as one digit, the other digits after a point, and a power of ten. -/
def scientificText (digits : List Char) (leading : Int) : List Char :=
  let fraction := digits.drop 1
  digits.take 1 ++ (if fraction.isEmpty then [] else '.' :: fraction) ++
    'e' :: (if leading < 0 then '-' else '+') :: digitsOf leading.natAbs

/-- The text of a decimal number in a layout. -/
def text (layout : Layout) (decimal : Decimal) : List Char :=
  let digits := digitsOf decimal.units
  let leading := decimal.exponent + digits.length - 1
  let inFull :=
    match layout.positional with
    | none => true
    | some (least, greatest) => least ≤ leading ∧ leading ≤ greatest
  let unsigned :=
    if inFull then positionalText layout.pointZero digits decimal.exponent
    else scientificText digits leading
  if decimal.negative then '-' :: unsigned else unsigned

end Decimal

namespace Binary64

/-- The text of a finite value in a layout. -/
def finiteText (layout : Layout) (value : Binary64) : List Char :=
  (value.shortest layout.tie).text layout

/-- The text of a value for people: digits in full, or the name of what is no finite number. -/
def text (value : Binary64) : String :=
  if value.isNaN then "NaN"
  else if value.isFinite then String.ofList (value.finiteText Layout.plain)
  else if value.isNegative then "-inf" else "inf"

end Binary64

end Telemetry
