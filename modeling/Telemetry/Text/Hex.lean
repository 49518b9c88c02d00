import Telemetry.Text.Bytes

/-!
# Hexadecimal text

A byte is written as two hexadecimal digits in lower case; digits are read in either case.
`decode?_encode` says that reading undoes writing.
-/

namespace Telemetry.Hex

/-- The digit of a value below sixteen, in lower case. -/
def digit (value : Nat) : UInt8 :=
  if value < 10 then (0x30 + value).toUInt8 else (0x57 + value).toUInt8

/-- The value of a digit, in either case. -/
def value? (digit : UInt8) : Option Nat :=
  if 0x30 ≤ digit ∧ digit ≤ 0x39 then some (digit.toNat - 0x30)
  else if 0x41 ≤ digit ∧ digit ≤ 0x46 then some (digit.toNat - 0x37)
  else if 0x61 ≤ digit ∧ digit ≤ 0x66 then some (digit.toNat - 0x57)
  else none

theorem value?_digit : ∀ value < 16, value? (digit value) = some value := by
  decide

/-- Two digits for each byte. -/
def encode (bytes : Bytes) : Bytes :=
  bytes.flatMap fun byte => [digit (byte.toNat / 16), digit (byte.toNat % 16)]

/-- The bytes that an even number of digits write. -/
def decode? : Bytes → Option Bytes
  | [] => some []
  | [_] => none
  | high :: low :: rest =>
    match value? high, value? low, decode? rest with
    | some high, some low, some bytes => some ((16 * high + low).toUInt8 :: bytes)
    | _, _, _ => none

@[simp]
theorem decode?_encode (bytes : Bytes) : decode? (encode bytes) = some bytes := by
  induction bytes with
  | nil => rfl
  | cons byte rest inductionHypothesis =>
    have below : byte.toNat < 256 := byte.toNat_lt
    have high := value?_digit (byte.toNat / 16) (by omega)
    have low := value?_digit (byte.toNat % 16) (by omega)
    have sameNumber : 16 * (byte.toNat / 16) + byte.toNat % 16 = byte.toNat := by omega
    have restDecodes :
        decode? (rest.flatMap fun byte => [digit (byte.toNat / 16), digit (byte.toNat % 16)]) =
          some rest := inductionHypothesis
    simp [encode, decode?, high, low, restDecodes, sameNumber]

/-- The hexadecimal text of some bytes. -/
def text (bytes : Bytes) : String :=
  String.ofList ((encode bytes).map fun digit => Char.ofNat digit.toNat)

/-- The value of a digit among the characters, in either case. -/
def valueOfChar? (character : Char) : Option Nat :=
  if character.toNat < 0x80 then value? character.toNat.toUInt8 else none

end Telemetry.Hex
