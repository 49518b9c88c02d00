import Telemetry.Digest.Sha256

/-!
# Keyed digests

The HMAC of a message under a key, with SHA-256 as the digest: whoever has the key can check that a message
is the one that was signed.
-/

namespace Telemetry.Hmac

/-- The size of a block of the digest. -/
def blockSize : Nat := 64

/-- A key of any length as one block. -/
def keyBlock (key : Bytes) : Bytes :=
  let short := if blockSize < key.length then Sha256.hash key else key
  short ++ List.replicate (blockSize - short.length) 0

/-- The keyed digest of a message. -/
def mac (key message : Bytes) : Bytes :=
  let block := keyBlock key
  let inner := Sha256.hash (block.map (· ^^^ 0x36) ++ message)
  Sha256.hash (block.map (· ^^^ 0x5c) ++ inner)

theorem mac_length (key message : Bytes) : (mac key message).length = 32 :=
  Sha256.hash_length _

end Telemetry.Hmac
