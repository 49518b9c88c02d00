import Telemetry.Number.Endian

/-!
# Distinguished encoding

A value is written as a tag, the length of its content and the content. There is one way to write each
value: lengths and numbers have no byte more than they need.
-/

namespace Telemetry.Der

/-- The tag of a whole number. -/
def integerTag : UInt8 := 0x02

/-- The tag of a string of bits. -/
def bitsTag : UInt8 := 0x03

/-- The tag of a string of bytes. -/
def bytesTag : UInt8 := 0x04

/-- The tag of a sequence of values. -/
def sequenceTag : UInt8 := 0x30

/-- The length in front of a content, and what follows it. -/
def length? : Bytes → Option (Nat × Bytes)
  | [] => none
  | first :: rest =>
    if first < 0x80 then
      some (first.toNat, rest)
    else
      let count := first.toNat - 0x80
      let digits := rest.take count
      let length := Endian.ofBig digits
      if 1 ≤ count ∧ count ≤ 4 ∧ digits.length = count ∧ 0x80 ≤ length ∧
          Nat.pow 256 (count - 1) ≤ length then
        some (length, rest.drop count)
      else
        none

/-- The first value: its tag, its content, and what follows it. -/
def value? : Bytes → Option (UInt8 × Bytes × Bytes)
  | [] => none
  | tag :: rest =>
    match length? rest with
    | none => none
    | some (length, rest) =>
      if (rest.take length).length = length then some (tag, rest.take length, rest.drop length) else none

/-- The content of the first value, which has the given tag, and what follows it. -/
def tagged? (tag : UInt8) (bytes : Bytes) : Option (Bytes × Bytes) :=
  match value? bytes with
  | some (found, content, rest) => if found = tag then some (content, rest) else none
  | none => none

/-- The content of the only value, which has the given tag. -/
def only? (tag : UInt8) (bytes : Bytes) : Option Bytes :=
  match tagged? tag bytes with
  | some (content, []) => some content
  | _ => none

/-- The natural number with the given content: not negative, and no zero byte in front but one that keeps
it so. -/
def naturalOf? : Bytes → Option Nat
  | [] => none
  | [byte] => if byte < 0x80 then some byte.toNat else none
  | first :: second :: rest =>
    if first = 0 ∧ second < 0x80 ∨ 0x80 ≤ first then none
    else some (Endian.ofBig (first :: second :: rest))

/-- The natural number that comes first, and what follows it. -/
def natural? (bytes : Bytes) : Option (Nat × Bytes) :=
  match tagged? integerTag bytes with
  | none => none
  | some (content, rest) => (naturalOf? content).map fun value => (value, rest)

/-- All values in a row, if they make up the bytes. There are not more of them than `fuel`. -/
def values? : Nat → Bytes → Option (List (UInt8 × Bytes))
  | _, [] => some []
  | 0, _ => none
  | fuel + 1, bytes =>
    match value? bytes with
    | none => none
    | some (tag, content, rest) => (values? fuel rest).map ((tag, content) :: ·)

end Telemetry.Der
