import Telemetry.Text.Bytes

/-!
# Bits of a byte string

Bits are taken from bytes one at a time, the least significant bit of each byte first. A number of several
bits likewise has its least significant bit first.
-/

namespace Telemetry

/-- What is left to read: some upper bits of a byte already begun, and whole bytes. -/
structure BitSource where
  /-- The bits left of the byte begun, as a number. -/
  begun : Nat
  /-- How many bits these are. -/
  count : Nat
  rest : Bytes
  deriving Repr

namespace BitSource

/-- Everything is left to read. -/
def ofBytes (bytes : Bytes) : BitSource := ⟨0, 0, bytes⟩

/-- The next bit and what is left then. -/
def bit? : BitSource → Option (Nat × BitSource)
  | ⟨begun, count + 1, rest⟩ => some (begun % 2, ⟨begun / 2, count, rest⟩)
  | ⟨_, 0, byte :: rest⟩ => some (byte.toNat % 2, ⟨byte.toNat / 2, 7, rest⟩)
  | ⟨_, 0, []⟩ => none

/-- The number in the next bits and what is left then. -/
def bits? : Nat → BitSource → Option (Nat × BitSource)
  | 0, source => some (0, source)
  | width + 1, source =>
    match source.bit? with
    | none => none
    | some (low, source) =>
      match bits? width source with
      | none => none
      | some (high, source) => some (low + 2 * high, source)

/-- The whole bytes that are left; the rest of a byte begun is passed over. -/
def bytes (source : BitSource) : Bytes := source.rest

end BitSource

end Telemetry
