import Telemetry.Compression.PrefixCode
import Telemetry.Number.Endian

/-!
# Compressed data

Compressed data is a sequence of blocks. A block holds bytes as they are, or symbols in a prefix code: a
symbol is a byte, the end of the block, or the length of a piece to copy, which is followed by how far back
the piece begins. A piece may overlap what it makes; before the first byte there are zeros.
-/

namespace Telemetry.Inflate

/-- The two codes of a block: for bytes and lengths, and for distances. -/
structure Codes where
  literals : PrefixCode
  distances : PrefixCode

/-- The least value of a class of numbers, and how many bits tell the numbers of the class apart. -/
structure NumberClass where
  least : Nat
  extraBits : Nat

/-- The classes of lengths, for the symbols from 257 on. -/
def lengthClasses : Array NumberClass := #[
  ⟨3, 0⟩, ⟨4, 0⟩, ⟨5, 0⟩, ⟨6, 0⟩, ⟨7, 0⟩, ⟨8, 0⟩, ⟨9, 0⟩, ⟨10, 0⟩, ⟨11, 1⟩, ⟨13, 1⟩, ⟨15, 1⟩, ⟨17, 1⟩,
  ⟨19, 2⟩, ⟨23, 2⟩, ⟨27, 2⟩, ⟨31, 2⟩, ⟨35, 3⟩, ⟨43, 3⟩, ⟨51, 3⟩, ⟨59, 3⟩, ⟨67, 4⟩, ⟨83, 4⟩, ⟨99, 4⟩,
  ⟨115, 4⟩, ⟨131, 5⟩, ⟨163, 5⟩, ⟨195, 5⟩, ⟨227, 5⟩, ⟨258, 0⟩]

/-- The classes of distances. -/
def distanceClasses : Array NumberClass := #[
  ⟨1, 0⟩, ⟨2, 0⟩, ⟨3, 0⟩, ⟨4, 0⟩, ⟨5, 1⟩, ⟨7, 1⟩, ⟨9, 2⟩, ⟨13, 2⟩, ⟨17, 3⟩, ⟨25, 3⟩, ⟨33, 4⟩, ⟨49, 4⟩,
  ⟨65, 5⟩, ⟨97, 5⟩, ⟨129, 6⟩, ⟨193, 6⟩, ⟨257, 7⟩, ⟨385, 7⟩, ⟨513, 8⟩, ⟨769, 8⟩, ⟨1025, 9⟩, ⟨1537, 9⟩,
  ⟨2049, 10⟩, ⟨3073, 10⟩, ⟨4097, 11⟩, ⟨6145, 11⟩, ⟨8193, 12⟩, ⟨12289, 12⟩, ⟨16385, 13⟩, ⟨24577, 13⟩]

/-- Reads the rest of a number whose class is known. -/
def number? (classes : Array NumberClass) (place : Nat) (source : BitSource) :
    Option (Nat × BitSource) :=
  match classes[place]? with
  | none => none
  | some numbers =>
    (BitSource.bits? numbers.extraBits source).map fun (extra, source) =>
      (numbers.least + extra, source)

/-- Copies a piece, byte by byte. -/
def copy (output : Array UInt8) (distance : Nat) : Nat → Array UInt8
  | 0 => output
  | length + 1 =>
    let byte := if output.size < distance then 0 else output.getD (output.size - distance) 0
    copy (output.push byte) distance length

/-- Reads the symbols of a block up to its end. There are not more of them than `fuel`. -/
def symbols? (codes : Codes) :
    Nat → Array UInt8 → BitSource → Option (Array UInt8 × BitSource)
  | 0, _, _ => none
  | fuel + 1, output, source =>
    match codes.literals.symbol? source with
    | none => none
    | some (symbol, source) =>
      if symbol < 256 then
        symbols? codes fuel (output.push symbol.toUInt8) source
      else if symbol = 256 then
        some (output, source)
      else
        match number? lengthClasses (symbol - 257) source with
        | none => none
        | some (length, source) =>
          match codes.distances.symbol? source with
          | none => none
          | some (place, source) =>
            match number? distanceClasses place source with
            | none => none
            | some (distance, source) =>
              symbols? codes fuel (copy output distance length) source

/-! ## Codes -/

/-- The codes of blocks that do not bring their own. -/
def fixedCodes : Codes where
  literals := .ofLengths
    (List.replicate 144 8 ++ List.replicate 112 9 ++ List.replicate 24 7 ++ List.replicate 8 8)
  distances := .ofLengths (List.replicate 30 5)

/-- The order in which the lengths for the code of lengths are given. -/
def lengthOrder : List Nat :=
  [16, 17, 18, 0, 8, 7, 9, 6, 10, 5, 11, 4, 12, 3, 13, 2, 14, 1, 15]

/-- Reads some numbers of three bits. -/
def threeBits? : Nat → BitSource → Option (List Nat × BitSource)
  | 0, source => some ([], source)
  | count + 1, source =>
    match BitSource.bits? 3 source with
    | none => none
    | some (first, source) => (threeBits? count source).map fun (others, source) =>
      (first :: others, source)

/-- What a symbol of the code of lengths repeats, and how often; `last` is the length before it. -/
def repetition? (symbol : Nat) (last : Option Nat) (source : BitSource) :
    Option (Nat × Nat × BitSource) :=
  if symbol < 16 then
    some (symbol, 1, source)
  else if symbol = 16 then
    match last, BitSource.bits? 2 source with
    | some last, some (extra, source) => some (last, 3 + extra, source)
    | _, _ => none
  else if symbol = 17 then
    (BitSource.bits? 3 source).map fun (extra, source) => (0, 3 + extra, source)
  else
    (BitSource.bits? 7 source).map fun (extra, source) => (0, 11 + extra, source)

/-- Reads the lengths of the words of both codes: `left` more of them, after those in `known`, which are
kept newest first. There are not more symbols than `fuel`. -/
def lengths? (code : PrefixCode) :
    Nat → Nat → List Nat → BitSource → Option (List Nat × BitSource)
  | _, 0, known, source => some (known.reverse, source)
  | 0, _, _, _ => none
  | fuel + 1, left, known, source =>
    match code.symbol? source with
    | none => none
    | some (symbol, source) =>
      match repetition? symbol known.head? source with
      | none => none
      | some (length, times, source) =>
        if left < times then none
        else lengths? code fuel (left - times) (List.replicate times length ++ known) source

/-- Whether the words of a code can be told apart. A code of one word or none need not be complete. -/
def isUsable (code : PrefixCode) : Bool :=
  code.isComplete || code.size ≤ 1

/-- Reads the codes that a block brings. -/
def ownCodes? (source : BitSource) : Option (Codes × BitSource) := do
  let (literals, source) ← BitSource.bits? 5 source
  let (distances, source) ← BitSource.bits? 5 source
  let (given, source) ← BitSource.bits? 4 source
  if 29 < literals ∨ 29 < distances then
    none
  else
    let (short, source) ← threeBits? (given + 4) source
    let ordered := lengthOrder.zip short
    let code := PrefixCode.ofLengths ((List.range 19).map fun symbol => (ordered.lookup symbol).getD 0)
    if code.isComplete then
      let total := literals + 257 + (distances + 1)
      let (lengths, source) ← lengths? code total total [] source
      let codes : Codes :=
        ⟨.ofLengths (lengths.take (literals + 257)), .ofLengths (lengths.drop (literals + 257))⟩
      if isUsable codes.literals && isUsable codes.distances then some (codes, source) else none
    else
      none

/-! ## Blocks -/

/-- Reads a block of bytes as they are: their number, its complement, and the bytes. -/
def stored? (output : Array UInt8) : Bytes → Option (Array UInt8 × BitSource)
  | first :: second :: third :: fourth :: rest =>
    let length := Endian.ofLittle [first, second]
    if Endian.ofLittle [third, fourth] + length = 0xffff then
      let content := rest.take length
      if content.length = length then some (output ++ content, .ofBytes (rest.drop length)) else none
    else
      none
  | _ => none

/-- Reads one block after its first bit. -/
def block? (fuel : Nat) (output : Array UInt8) (source : BitSource) :
    Option (Array UInt8 × BitSource) :=
  match BitSource.bits? 2 source with
  | some (0, source) => stored? output source.bytes
  | some (1, source) => symbols? fixedCodes fuel output source
  | some (2, source) => (ownCodes? source).bind fun (codes, source) => symbols? codes fuel output source
  | _ => none

/-- Reads blocks up to the one that is marked as the last. There are not more of them than `fuel`. -/
def blocks? (symbolFuel : Nat) :
    Nat → Array UInt8 → BitSource → Option (Array UInt8 × Bytes)
  | 0, _, _ => none
  | fuel + 1, output, source =>
    match source.bit? with
    | none => none
    | some (last, source) =>
      match block? symbolFuel output source with
      | none => none
      | some (output, source) =>
        if last = 1 then some (output, source.bytes) else blocks? symbolFuel fuel output source

/-- The content of compressed data at the start of some bytes, and the bytes after it. Every block and
every symbol takes a bit at least. -/
def content? (data : Bytes) : Option (Bytes × Bytes) :=
  let bits := 8 * data.length
  (blocks? bits bits #[] (.ofBytes data)).map fun (output, rest) => (output.toList, rest)

end Telemetry.Inflate
