/-!
# Binary floating point values

A gauge holds one value of the 64-bit binary floating point format. Values are carried as their bits:
nothing here adds or multiplies them, so two values are the same exactly when their bits are, and
negative zero stays apart from zero.

Below the sign bit, the bits of a finite value count along the number line: the magnitude whose bits are
`n` is the `n`-th one above zero. `significand` and `exponent` read that magnitude as
`significand * 2 ^ exponent`, and `ofIndex` goes back.
-/

namespace Telemetry

/-- A 64-bit binary floating point value, by its bits. -/
structure Binary64 where
  bits : UInt64
  deriving DecidableEq, Inhabited, Repr

namespace Binary64

/-- How many magnitudes share one exponent. -/
def binade : Nat := 0x10000000000000

/-- The index of infinity: one past the largest finite magnitude. -/
def infinityIndex : Nat := 2047 * binade

/-- The least exponent, in which one unit is the least positive magnitude. -/
def leastExponent : Int := -1074

/-- The bits of negative zero, which has the sign bit and no other. -/
def signBit : Nat := 0x8000000000000000

/-- Whether the sign bit is set. -/
def isNegative (value : Binary64) : Bool :=
  signBit ≤ value.bits.toNat

/-- The place of the magnitude on the number line; above `infinityIndex` the value is no number. -/
def index (value : Binary64) : Nat :=
  value.bits.toNat % signBit

/-- Neither an infinity nor a non-number. -/
def isFinite (value : Binary64) : Bool :=
  value.index < infinityIndex

/-- The result of an operation that has no value. -/
def isNaN (value : Binary64) : Bool :=
  infinityIndex < value.index

/-- The value with the given sign whose magnitude has the given index. -/
def ofIndex (negative : Bool) (index : Nat) : Binary64 :=
  ⟨UInt64.ofNat (index + if negative then signBit else 0)⟩

/-- Zero, with either sign. -/
def zero (negative : Bool) : Binary64 :=
  ofIndex negative 0

/-- Infinity, with either sign. -/
def infinity (negative : Bool) : Binary64 :=
  ofIndex negative infinityIndex

/-- The quiet non-number. -/
def nan : Binary64 :=
  ofIndex false (infinityIndex + binade / 2)

/-- The whole number of units that a finite magnitude holds. -/
def significand (value : Binary64) : Nat :=
  if value.index < binade then value.index else value.index % binade + binade

/-- The power of two that one unit of a finite magnitude is. -/
def exponent (value : Binary64) : Int :=
  if value.index < binade then leastExponent else leastExponent - 1 + (value.index / binade : Nat)

end Binary64

end Telemetry
