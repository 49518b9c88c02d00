import Telemetry.Compression.Inflate
import Telemetry.Digest.Crc32

/-!
# Gzip

A member of a gzip file is a header, compressed data, and the check and the length of the content. `unpack?`
reads the first member and ignores what follows. `pack` writes a member whose content stands there as it
is: nothing asks for a smaller one.
-/

namespace Telemetry.Gzip

/-! ## Reading -/

/-- The largest number of bytes of a name or a comment. -/
def longestName : Nat := 65535

/-- What follows a name or a comment that ends with a zero byte. -/
def afterName? (bytes : Bytes) : Option Bytes :=
  if longestName < (bytes.takeWhile (· != 0)).length then none
  else
    match bytes.dropWhile (· != 0) with
    | _ :: rest => some rest
    | [] => none

/-- What follows an extra field, which says its own length. -/
def afterExtra? : Bytes → Option Bytes
  | first :: second :: rest =>
    let length := Endian.ofLittle [first, second]
    if (rest.take length).length = length then some (rest.drop length) else none
  | _ => none

/-- What follows the check of the header, which is `whole` without what is left. -/
def afterHeaderCheck? (whole : Bytes) : Bytes → Option Bytes
  | first :: second :: rest =>
    let header := whole.take (whole.length - (rest.length + 2))
    if Endian.little 2 (Crc32.check header).toNat = [first, second] then some rest else none
  | _ => none

/-- Goes past an optional part of the header. -/
def afterOptional? (present : Bool) (after? : Bytes → Option Bytes) (bytes : Bytes) : Option Bytes :=
  if present then after? bytes else some bytes

/-- What follows the header of a member. -/
def afterHeader? (whole : Bytes) : Option Bytes :=
  match whole with
  | 0x1f :: 0x8b :: 0x08 :: flags :: _ :: _ :: _ :: _ :: _ :: _ :: rest =>
    let flag := flags.toNat.testBit
    if flags.toNat < 32 then do
      let rest ← afterOptional? (flag 2) afterExtra? rest
      let rest ← afterOptional? (flag 3) afterName? rest
      let rest ← afterOptional? (flag 4) afterName? rest
      afterOptional? (flag 1) (afterHeaderCheck? whole) rest
    else
      none
  | _ => none

/-- The check and the length of a content, as they follow it. -/
def trailer (content : Bytes) : Bytes :=
  Endian.little 4 (Crc32.check content).toNat ++ Endian.little 4 content.length

/-- The content of the first member. -/
def unpack? (packed : Bytes) : Option Bytes := do
  let data ← afterHeader? packed
  let (content, rest) ← Inflate.content? data
  if rest.take 8 = trailer content then some content else none

/-! ## Writing -/

/-- The header of a member without a name. -/
def header : Bytes :=
  [0x1f, 0x8b, 0x08, 0x00, 0x00, 0x00, 0x00, 0x00, 0x00, 0xff]

/-- The largest number of bytes in one block. -/
def blockSize : Nat := 65535

/-- A block with the given bytes as they are. -/
def storedBlock (last : Bool) (content : Bytes) : Bytes :=
  (if last then 0x01 else 0x00) ::
    (Endian.little 2 content.length ++ Endian.little 2 (0xffff - content.length) ++ content)

/-- Blocks with the given bytes as they are. -/
def storedBlocks (content : Bytes) : Bytes :=
  if content.length ≤ blockSize then
    storedBlock true content
  else
    storedBlock false (content.take blockSize) ++ storedBlocks (content.drop blockSize)
termination_by content.length
decreasing_by
  rw [List.length_drop]
  simp only [blockSize] at *
  omega

/-- A member with the given content. -/
def pack (content : Bytes) : Bytes :=
  header ++ storedBlocks content ++ trailer content

end Telemetry.Gzip
