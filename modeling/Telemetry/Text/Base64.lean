import Telemetry.Text.Bytes

/-!
# Base64

Four characters of 64 write three bytes; the last four write one or two, with two or one equality signs in
the place of the others. A text is read only if it is the one that writing gives: the bits that the last
character has too many are zero.
-/

namespace Telemetry.Base64

/-- The value of a character. -/
def value? (character : UInt8) : Option Nat :=
  if 0x41 ≤ character ∧ character ≤ 0x5a then some (character.toNat - 0x41)
  else if 0x61 ≤ character ∧ character ≤ 0x7a then some (character.toNat - 0x61 + 26)
  else if 0x30 ≤ character ∧ character ≤ 0x39 then some (character.toNat - 0x30 + 52)
  else if character = 0x2b then some 62
  else if character = 0x2f then some 63
  else none

/-- The sign in the place of a character that is not needed. -/
def filler : UInt8 := 0x3d

/-- The bytes in the last four characters. -/
def last? (first second third fourth : UInt8) : Option Bytes :=
  match value? first, value? second with
  | some first, some second =>
    if third = filler ∧ fourth = filler then
      if second % 16 = 0 then some [(first * 4 + second / 16).toUInt8] else none
    else
      match value? third with
      | none => none
      | some third =>
        let upper := [(first * 4 + second / 16).toUInt8, (second % 16 * 16 + third / 4).toUInt8]
        if fourth = filler then
          if third % 4 = 0 then some upper else none
        else
          (value? fourth).map fun fourth => upper ++ [(third % 4 * 64 + fourth).toUInt8]
  | _, _ => none

/-- The bytes that a text writes. -/
def decode? : Bytes → Option Bytes
  | [] => some []
  | [first, second, third, fourth] => last? first second third fourth
  | first :: second :: third :: fourth :: rest =>
    if fourth = filler then none
    else
      match last? first second third fourth, decode? rest with
      | some bytes, some others => some (bytes ++ others)
      | _, _ => none
  | _ => none

end Telemetry.Base64
