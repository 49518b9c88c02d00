import Telemetry.Text.Bytes

/-!
# Numbers as bytes

A natural number as a given count of bytes, in either order, and the number that bytes stand for. What does
not fit into the bytes is left out.
-/

namespace Telemetry.Endian

/-- The bytes of a number, most significant first. -/
def big : Nat → Nat → Bytes
  | 0, _ => []
  | count + 1, value => big count (value / 256) ++ [value.toUInt8]

/-- The bytes of a number, least significant first. -/
def little : Nat → Nat → Bytes
  | 0, _ => []
  | count + 1, value => value.toUInt8 :: little count (value / 256)

/-- The number that bytes stand for, most significant first. -/
def ofBig (bytes : Bytes) : Nat :=
  bytes.foldl (fun value byte => 256 * value + byte.toNat) 0

/-- The number that bytes stand for, least significant first. -/
def ofLittle : Bytes → Nat
  | [] => 0
  | byte :: rest => byte.toNat + 256 * ofLittle rest

@[simp]
theorem length_big (count value : Nat) : (big count value).length = count := by
  induction count generalizing value with
  | zero => rfl
  | succ count inductionHypothesis => simp [big, inductionHypothesis]

@[simp]
theorem length_little (count value : Nat) : (little count value).length = count := by
  induction count generalizing value with
  | zero => rfl
  | succ count inductionHypothesis => simp [little, inductionHypothesis]

end Telemetry.Endian
