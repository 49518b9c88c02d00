import Telemetry.Text.Bytes

/-!
# Reading damaged text

Bytes that are not well-formed UTF-8 can still be read, with a mark in the place of what makes no sense:
one mark for each longest run of bytes that begins a character and does not end it.
-/

namespace Telemetry.Text

/-- The mark in the place of what makes no sense. -/
def damageMark : Char := '\ufffd'

/-- A character of which the first bytes have been read. -/
structure Unfinished where
  /-- The bits so far. -/
  bits : Nat
  /-- How many bytes are to come, less one. -/
  later : Nat
  /-- The least and the greatest next byte. -/
  least : UInt8
  greatest : UInt8

/-- What a byte begins: a character of one byte, or an unfinished one; nothing if no character begins
so. -/
def begun? (byte : UInt8) : Option (Char ⊕ Unfinished) :=
  let bits := byte.toNat
  if byte < 0x80 then some (.inl (Char.ofNat bits))
  else if byte < 0xc2 then none
  else if byte < 0xe0 then some (.inr ⟨bits - 0xc0, 0, 0x80, 0xbf⟩)
  else if byte < 0xf0 then
    some (.inr ⟨bits - 0xe0, 1, if byte = 0xe0 then 0xa0 else 0x80, if byte = 0xed then 0x9f else 0xbf⟩)
  else if byte < 0xf5 then
    some (.inr ⟨bits - 0xf0, 2, if byte = 0xf0 then 0x90 else 0x80, if byte = 0xf4 then 0x8f else 0xbf⟩)
  else none

/-- The characters of some bytes after an unfinished character, if there is one. -/
def lossyFrom : Option Unfinished → Bytes → List Char
  | none, [] => []
  | some _, [] => [damageMark]
  | some unfinished, byte :: rest =>
    let bits := 64 * unfinished.bits + (byte.toNat - 0x80)
    if unfinished.least ≤ byte ∧ byte ≤ unfinished.greatest then
      match unfinished.later with
      | 0 => Char.ofNat bits :: lossyFrom none rest
      | later + 1 => lossyFrom (some ⟨bits, later, 0x80, 0xbf⟩) rest
    else
      match begun? byte with
      | none => damageMark :: damageMark :: lossyFrom none rest
      | some (.inl character) => damageMark :: character :: lossyFrom none rest
      | some (.inr next) => damageMark :: lossyFrom (some next) rest
  | none, byte :: rest =>
    match begun? byte with
    | none => damageMark :: lossyFrom none rest
    | some (.inl character) => character :: lossyFrom none rest
    | some (.inr unfinished) => lossyFrom (some unfinished) rest

/-- The text that some bytes spell, with marks in the place of what makes no sense. -/
def lossy (bytes : Bytes) : String :=
  String.ofList (lossyFrom none bytes)

end Telemetry.Text
