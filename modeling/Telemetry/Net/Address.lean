import Telemetry.Number.Decimal
import Telemetry.Text.Hex
import Telemetry.Text.Pieces

/-!
# Internet addresses

An address is a word of 32 or of 128 bits. The short ones are written as four decimal octets; the long
ones as eight groups of hexadecimal digits, where one run of zero groups may be left out between two
colons and the last two groups may be written as a short address.

The text of a long address leaves out the first of its longest runs of zero groups, if that run has two at
least. A long address that stands for a short one shows it.
-/

namespace Telemetry

/-- An internet address. -/
inductive Address
  | v4 (bits : BitVec 32)
  | v6 (bits : BitVec 128)
  deriving DecidableEq, Repr

namespace Address

/-- The number of bits of an address. -/
def width : Address → Nat
  | v4 _ => 32
  | v6 _ => 128

/-- The upper 96 bits of the long addresses that stand for short ones. -/
def mappedMark : Nat := 0xffff

/-- The short address for a long one that stands for it; any other address itself. -/
def canonical : Address → Address
  | v4 bits => v4 bits
  | v6 bits => if bits.toNat / 0x100000000 = mappedMark then v4 (bits.setWidth 32) else v6 bits

/-- The number with the given digits, most significant first, in a base. -/
def ofDigits (base : Nat) (digits : List Nat) : Nat :=
  digits.foldl (fun value digit => value * base + digit) 0

/-- The last `count` digits of a number in a base, most significant first. -/
def digits (base : Nat) : Nat → Nat → List Nat
  | 0, _ => []
  | count + 1, value => digits base count (value / base) ++ [value % base]

/-! ## Reading -/

/-- A decimal number below 256, without leading zeros. -/
def octet? (text : List Char) : Option Nat :=
  if 3 < text.length ∨ 1 < text.length ∧ text.head? = some '0' then none
  else (Decimal.natural? text).filter (· < 256)

/-- Four octets between points. -/
def octets? (text : List Char) : Option (List Nat) :=
  match Text.pieces '.' text with
  | [first, second, third, fourth] => [first, second, third, fourth].mapM octet?
  | _ => none

/-- One to four hexadecimal digits. -/
def group? (text : List Char) : Option Nat :=
  if text = [] ∨ 4 < text.length then none else (text.mapM Hex.valueOfChar?).map (ofDigits 16)

/-- The groups that one piece at the end stands for: one group, or a short address in two. -/
def lastGroups? (text : List Char) : Option (List Nat) :=
  match group? text with
  | some group => some [group]
  | none => (octets? text).map fun octets => digits 0x10000 2 (ofDigits 256 octets)

/-- The groups of pieces; the last one may be a short address. -/
def groups? : List (List Char) → Option (List Nat)
  | [] => some []
  | [last] => lastGroups? last
  | piece :: pieces =>
    match group? piece, groups? pieces with
    | some group, some groups => some (group :: groups)
    | _, _ => none

/-- The pieces between colons; an empty text has none. -/
def piecesOf (text : List Char) : List (List Char) :=
  if text = [] then [] else Text.pieces ':' text

/-- What stands before and after the first two colons in a row. -/
def cutAtGap : List Char → Option (List Char × List Char)
  | ':' :: ':' :: rest => some ([], rest)
  | character :: rest => (cutAtGap rest).map fun (before, after) => (character :: before, after)
  | [] => none

/-- The eight groups of a long address. A gap stands for one zero group at least. -/
def eightGroups? (text : List Char) : Option (List Nat) :=
  match cutAtGap text with
  | none => (groups? (piecesOf text)).filter fun groups => groups.length = 8
  | some (before, after) =>
    match (piecesOf before).mapM group?, groups? (piecesOf after) with
    | some upper, some lower =>
      if upper.length + lower.length ≤ 7 then
        some (upper ++ List.replicate (8 - upper.length - lower.length) 0 ++ lower)
      else
        none
    | _, _ => none

/-- Reads an address of either length. -/
def ofText? (text : String) : Option Address :=
  match octets? text.toList with
  | some octets => some (v4 (BitVec.ofNat 32 (ofDigits 256 octets)))
  | none =>
    (eightGroups? text.toList).map fun groups => v6 (BitVec.ofNat 128 (ofDigits 0x10000 groups))

/-! ## Writing -/

/-- The octets of a short address between points. -/
def shortText (bits : BitVec 32) : String :=
  ".".intercalate ((digits 256 4 bits.toNat).map toString)

/-- A group without leading zeros. -/
def groupText (group : Nat) : String :=
  String.ofList (Nat.toDigits 16 group)

/-- Groups between colons. -/
def groupsText (groups : List Nat) : String :=
  ":".intercalate (groups.map groupText)

/-- How many zero groups come first. -/
def zeroRun (groups : List Nat) : Nat :=
  (groups.takeWhile (· == 0)).length

/-- The place of the first of the longest runs of zero groups, and its length. -/
def longestRun (groups : List Nat) : Nat × Nat :=
  (List.range groups.length).foldl
    (fun best start =>
      let length := zeroRun (groups.drop start)
      if best.2 < length then (start, length) else best)
    (0, 0)

/-- The text of eight groups. -/
def eightGroupsText (groups : List Nat) : String :=
  let (start, length) := longestRun groups
  if 1 < length then
    groupsText (groups.take start) ++ "::" ++ groupsText (groups.drop (start + length))
  else
    groupsText groups

/-- The text of an address. -/
def text : Address → String
  | v4 bits => shortText bits
  | v6 bits =>
    if bits.toNat / 0x100000000 = mappedMark then
      "::ffff:" ++ shortText (bits.setWidth 32)
    else
      eightGroupsText (digits 0x10000 8 bits.toNat)

end Address

end Telemetry
