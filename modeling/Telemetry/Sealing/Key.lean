import Telemetry.Sealing.Der
import Telemetry.Sealing.Pem

/-!
# Keys for sealing

A public key seals what only the holder of the private key can open. Both share a modulus; a power with the
one exponent undoes a power with the other. Keys are read from the usual envelopes: a public key bare or
with the name of its algorithm, a private key likewise.
-/

namespace Telemetry

/-- A key that seals. -/
structure PublicKey where
  modulus : Nat
  exponent : Nat
  deriving DecidableEq, Repr

/-- A key that opens, with the key that seals for it. -/
structure PrivateKey where
  publicKey : PublicKey
  exponent : Nat
  deriving DecidableEq, Repr

namespace PublicKey

/-- The number of bits of a number. -/
def bitCount (value : Nat) : Nat :=
  if value = 0 then 0 else value.log2 + 1

/-- The number of bytes of a sealed block. -/
def size (key : PublicKey) : Nat :=
  (bitCount key.modulus + 7) / 8

/-- Whether a key is within the limits: 4096 bits for the modulus, and an exponent from 2 to 33 bits. -/
def isSupported (key : PublicKey) : Bool :=
  bitCount key.modulus ≤ 4096 && 2 ≤ key.exponent && key.exponent < 0x200000000

/-- The key with a modulus and an exponent in a sequence. -/
def ofDer? (bytes : Bytes) : Option PublicKey := do
  let numbers ← Der.only? Der.sequenceTag bytes
  let (modulus, rest) ← Der.natural? numbers
  let (exponent, rest) ← Der.natural? rest
  if rest = [] then
    let key : PublicKey := ⟨modulus, exponent⟩
    if key.isSupported then some key else none
  else
    none

/-- The name of the algorithm, which takes no parameters. -/
def algorithm : Bytes :=
  [0x06, 0x09, 0x2a, 0x86, 0x48, 0x86, 0xf7, 0x0d, 0x01, 0x01, 0x01, 0x05, 0x00]

/-- The key after the name of its algorithm, in a string of whole bytes. -/
def ofNamedDer? (bytes : Bytes) : Option PublicKey := do
  let parts ← Der.only? Der.sequenceTag bytes
  let (name, rest) ← Der.tagged? Der.sequenceTag parts
  if name = algorithm then
    match ← Der.only? Der.bitsTag rest with
    | 0x00 :: key => ofDer? key
    | _ => none
  else
    none

/-- Reads a public key from a text. -/
def ofPem? (text : Bytes) : Option PublicKey :=
  ((Pem.content? "PUBLIC KEY" text).bind ofNamedDer?) <|>
    ((Pem.content? "RSA PUBLIC KEY" text).bind ofDer?)

end PublicKey

namespace PrivateKey

/-- Whether an exponent undoes the public one for a prime factor. -/
def undoes (exponent publicExponent factor : Nat) : Bool :=
  1 < factor && publicExponent * exponent % (factor - 1) == 1

/-- The key with the given numbers, if they belong together. -/
def ofNumbers? (modulus publicExponent exponent first second : Nat) : Option PrivateKey :=
  let key : PublicKey := ⟨modulus, publicExponent⟩
  if key.isSupported && first * second == modulus && undoes exponent publicExponent first &&
      undoes exponent publicExponent second then
    some ⟨key, exponent⟩
  else
    none

/-- The key with its numbers in a sequence: a version, the modulus, both exponents, the two prime factors,
and three numbers that follow from these. -/
def ofDer? (bytes : Bytes) : Option PrivateKey := do
  let numbers ← Der.only? Der.sequenceTag bytes
  let (version, rest) ← Der.natural? numbers
  let (modulus, rest) ← Der.natural? rest
  let (publicExponent, rest) ← Der.natural? rest
  let (exponent, rest) ← Der.natural? rest
  let (first, rest) ← Der.natural? rest
  let (second, rest) ← Der.natural? rest
  let (_, rest) ← Der.natural? rest
  let (_, rest) ← Der.natural? rest
  let (_, rest) ← Der.natural? rest
  if version = 0 ∧ rest = [] then ofNumbers? modulus publicExponent exponent first second else none

/-- Whether a value may follow a key: an attribute, or a public key with the tag `0x81`. -/
def isExtension (value : UInt8 × Bytes) : Bool :=
  0x80 ≤ value.1 && value.1 < 0xc0

/-- The key after a version and the name of its algorithm, in a string of bytes. The second version alone
has a public key among what follows. -/
def ofNamedDer? (bytes : Bytes) : Option PrivateKey := do
  let parts ← Der.only? Der.sequenceTag bytes
  let (version, rest) ← Der.natural? parts
  let (name, rest) ← Der.tagged? Der.sequenceTag rest
  let (key, rest) ← Der.tagged? Der.bytesTag rest
  let extensions ← Der.values? rest.length rest
  let hasPublicKey := extensions.any fun value => value.1 == 0x81 && value.2.head? == some 0x00
  if name = PublicKey.algorithm ∧ extensions.all isExtension ∧ version = (if hasPublicKey then 1 else 0) then
    ofDer? key
  else
    none

/-- Reads a private key from a text. -/
def ofPem? (text : Bytes) : Option PrivateKey :=
  ((Pem.content? "RSA PRIVATE KEY" text).bind ofDer?) <|>
    ((Pem.content? "PRIVATE KEY" text).bind ofNamedDer?)

end PrivateKey

end Telemetry
