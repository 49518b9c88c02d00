import Telemetry.Digest.Sha256

/-!
# Padding with a random mask

Before a message is sealed it is padded to a whole block, OAEP with SHA-256: digests of a random seed mask
the message, and digests of the masked message mask the seed. The message is marked off by a digest, zeros
and a one, so a block that was sealed otherwise is told from a message.
-/

namespace Telemetry.Padding

/-- The size of a digest, and of the seed. -/
def digestSize : Nat := 32

/-- How many bytes the padding takes at least. -/
def overhead : Nat := 2 * digestSize + 2

/-- The digest that stands in front of every message. -/
def mark : Bytes := Sha256.hash []

/-- The first `length` bytes of the digests of a seed with a counter. -/
def mask (seed : Bytes) (length : Nat) : Bytes :=
  ((List.range (length / digestSize + 1)).flatMap fun counter =>
    Sha256.hash (seed ++ Endian.big 4 counter)).take length

/-- The bits in which two strings of bytes differ. -/
def mix (first second : Bytes) : Bytes :=
  first.zipWith (· ^^^ ·) second

/-- A message as a block of the given size, if it is short enough. -/
def encode? (size : Nat) (seed message : Bytes) : Option Bytes :=
  if message.length + overhead ≤ size then
    let zeros := List.replicate (size - overhead - message.length) 0
    let body := mark ++ zeros ++ 0x01 :: message
    let maskedBody := mix body (mask seed body.length)
    some (0x00 :: (mix seed (mask maskedBody digestSize) ++ maskedBody))
  else
    none

/-- The message in a block. -/
def decode? (block : Bytes) : Option Bytes :=
  match block with
  | [] => none
  | first :: rest =>
    let maskedSeed := rest.take digestSize
    let maskedBody := rest.drop digestSize
    let seed := mix maskedSeed (mask maskedBody digestSize)
    let body := mix maskedBody (mask seed maskedBody.length)
    match (body.drop digestSize).dropWhile (· == 0x00) with
    | 0x01 :: message =>
      if first = 0x00 ∧ overhead ≤ block.length ∧ body.take digestSize = mark then some message else none
    | _ => none

end Telemetry.Padding
