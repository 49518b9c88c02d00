import Telemetry.Sealing.Key
import Telemetry.Sealing.Padding

/-!
# Sealed payloads

A payload is sealed in pieces that are short enough for a block, one block after another; an empty payload
makes one block too. Opening wants whole blocks, one at least. Without a key a payload passes as it is.
-/

namespace Telemetry

/-- Where the seeds of the padding come from: a number for each block. -/
abbrev Entropy := Nat → Nat

namespace Envelope

/-- A power modulo a number, by repeated squaring. -/
def power (base exponent modulus : Nat) : Nat :=
  if exponent = 0 then
    1 % modulus
  else
    let half := power (base * base % modulus) (exponent / 2) modulus
    if exponent % 2 = 1 then half * base % modulus else half
termination_by exponent
decreasing_by omega

/-- The pieces of some bytes, all of the given size but the last one, newest first. -/
def piecesOnto (size : Nat) (done : List Bytes) (bytes : Bytes) : List Bytes :=
  match bytes with
  | [] => done
  | first :: rest =>
    piecesOnto size ((first :: rest.take (size - 1)) :: done) (rest.drop (size - 1))
termination_by bytes.length
decreasing_by
  simp only [List.length_drop, List.length_cons]
  omega

/-- The pieces of some bytes, all of the given size but the last one. -/
def pieces (size : Nat) (bytes : Bytes) : List Bytes :=
  (piecesOnto size [] bytes).reverse

/-- Seals one piece, if it is short enough. -/
def sealBlock? (key : PublicKey) (seed : Nat) (message : Bytes) : Option Bytes :=
  (Padding.encode? key.size (Endian.big Padding.digestSize seed) message).map fun padded =>
    Endian.big key.size (power (Endian.ofBig padded) key.exponent key.modulus)

/-- Opens one block. -/
def openBlock? (key : PrivateKey) (block : Bytes) : Option Bytes :=
  let value := Endian.ofBig block
  if value < key.publicKey.modulus then
    Padding.decode? (Endian.big key.publicKey.size (power value key.exponent key.publicKey.modulus))
  else
    none

/-- The number of bytes of the pieces that are sealed. -/
def pieceSize (key : PublicKey) : Nat :=
  max 1 (key.size - Padding.overhead)

/-- Seals a payload, if the key has room for its pieces. -/
def seal? (key : PublicKey) (entropy : Entropy) (payload : Bytes) : Option Bytes :=
  let messages := if payload = [] then [[]] else pieces (pieceSize key) payload
  (messages.zipIdx.mapM fun (message, place) => sealBlock? key (entropy place) message).map List.flatten

/-- Whether a payload consists of whole blocks. -/
def isWhole (key : PrivateKey) (payload : Bytes) : Bool :=
  payload ≠ [] && payload.length % key.publicKey.size == 0

/-- Opens a payload of whole blocks. -/
def open? (key : PrivateKey) (payload : Bytes) : Option Bytes :=
  ((pieces key.publicKey.size payload).mapM (openBlock? key)).map List.flatten

end Envelope

end Telemetry
