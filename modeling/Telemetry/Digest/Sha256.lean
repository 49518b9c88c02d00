import Telemetry.Number.Endian

/-!
# SHA-256

The digest of a message: the message is padded to whole blocks of 64 bytes, and each block in turn mixes
its words into a state of eight words, which is the digest in the end. `hash_length` says that a digest has
32 bytes.
-/

namespace Telemetry.Sha256

/-- The state of eight words. -/
structure State where
  a : UInt32
  b : UInt32
  c : UInt32
  d : UInt32
  e : UInt32
  f : UInt32
  g : UInt32
  h : UInt32

/-- The state before the first block: the square roots of the first eight primes, after the point. -/
def start : State :=
  ⟨0x6a09e667, 0xbb67ae85, 0x3c6ef372, 0xa54ff53a,
    0x510e527f, 0x9b05688c, 0x1f83d9ab, 0x5be0cd19⟩

/-- One word for each round: the cube roots of the first 64 primes, after the point. -/
def roundConstants : List UInt32 := [
  0x428a2f98, 0x71374491, 0xb5c0fbcf, 0xe9b5dba5, 0x3956c25b, 0x59f111f1, 0x923f82a4, 0xab1c5ed5,
  0xd807aa98, 0x12835b01, 0x243185be, 0x550c7dc3, 0x72be5d74, 0x80deb1fe, 0x9bdc06a7, 0xc19bf174,
  0xe49b69c1, 0xefbe4786, 0x0fc19dc6, 0x240ca1cc, 0x2de92c6f, 0x4a7484aa, 0x5cb0a9dc, 0x76f988da,
  0x983e5152, 0xa831c66d, 0xb00327c8, 0xbf597fc7, 0xc6e00bf3, 0xd5a79147, 0x06ca6351, 0x14292967,
  0x27b70a85, 0x2e1b2138, 0x4d2c6dfc, 0x53380d13, 0x650a7354, 0x766a0abb, 0x81c2c92e, 0x92722c85,
  0xa2bfe8a1, 0xa81a664b, 0xc24b8b70, 0xc76c51a3, 0xd192e819, 0xd6990624, 0xf40e3585, 0x106aa070,
  0x19a4c116, 0x1e376c08, 0x2748774c, 0x34b0bcb5, 0x391c0cb3, 0x4ed8aa4a, 0x5b9cca4f, 0x682e6ff3,
  0x748f82ee, 0x78a5636f, 0x84c87814, 0x8cc70208, 0x90befffa, 0xa4506ceb, 0xbef9a3f7, 0xc67178f2]

/-- The bits of a word, turned around to the right. -/
def rotate (word : UInt32) (places : UInt32) : UInt32 :=
  (word >>> places) ||| (word <<< (32 - places))

/-- The next word of the schedule, from the last sixteen, newest first. -/
def nextWord (window : List UInt32) : UInt32 :=
  let word (place : Nat) := window.getD place 0
  let second := word 1
  let fifteenth := word 14
  (rotate second 17 ^^^ rotate second 19 ^^^ (second >>> 10)) + word 6 +
    (rotate fifteenth 7 ^^^ rotate fifteenth 18 ^^^ (fifteenth >>> 3)) + word 15

/-- One round. -/
def round (state : State) (constant word : UInt32) : State :=
  let choice := (state.e &&& state.f) ^^^ (~~~state.e &&& state.g)
  let majority := (state.a &&& state.b) ^^^ (state.a &&& state.c) ^^^ (state.b &&& state.c)
  let upper := rotate state.e 6 ^^^ rotate state.e 11 ^^^ rotate state.e 25
  let lower := rotate state.a 2 ^^^ rotate state.a 13 ^^^ rotate state.a 22
  let mixed := state.h + upper + choice + constant + word
  ⟨mixed + lower + majority, state.a, state.b, state.c, state.d + mixed, state.e, state.f, state.g⟩

/-- The rounds with the given constants. The words of the block are used up first; then each round makes
its own. -/
def rounds (state : State) (window : List UInt32) : List UInt32 → List UInt32 → State
  | [], _ => state
  | constant :: constants, word :: words =>
    rounds (round state constant word) (word :: window) constants words
  | constant :: constants, [] =>
    let word := nextWord window
    rounds (round state constant word) (word :: window.take 15) constants []

/-- The words of a block, most significant byte first. -/
def words : Bytes → List UInt32
  | first :: second :: third :: fourth :: rest =>
    ((first.toUInt32 <<< 24) ||| (second.toUInt32 <<< 16) ||| (third.toUInt32 <<< 8) |||
      fourth.toUInt32) :: words rest
  | _ => []

/-- The state after one more block. -/
def absorb (state : State) (block : Bytes) : State :=
  let mixed := rounds state [] roundConstants (words block)
  ⟨state.a + mixed.a, state.b + mixed.b, state.c + mixed.c, state.d + mixed.d, state.e + mixed.e,
    state.f + mixed.f, state.g + mixed.g, state.h + mixed.h⟩

/-- The state after all blocks of 64 bytes. -/
def absorbAll (state : State) (message : Bytes) : State :=
  match message with
  | [] => state
  | first :: rest => absorbAll (absorb state (first :: rest.take 63)) (rest.drop 63)
termination_by message.length
decreasing_by
  simp only [List.length_drop, List.length_cons]
  omega

/-- What follows a message of the given length: a one bit, zeros, and the length in bits. -/
def padding (length : Nat) : Bytes :=
  0x80 :: (List.replicate ((119 - length % 64) % 64) 0 ++ Endian.big 8 (8 * length))

/-- The bytes of a state. -/
def State.bytes (state : State) : Bytes :=
  [state.a, state.b, state.c, state.d, state.e, state.f, state.g, state.h].flatMap fun word =>
    Endian.big 4 word.toNat

/-- The digest of a message. -/
def hash (message : Bytes) : Bytes :=
  (absorbAll start (message ++ padding message.length)).bytes

theorem hash_length (message : Bytes) : (hash message).length = 32 := by
  simp [hash, State.bytes]

end Telemetry.Sha256
