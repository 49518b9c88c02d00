import Telemetry.Compression.Bits

/-!
# Prefix codes

Each symbol of a prefix code has a word of bits, and no word begins with another one. Of a canonical code
only the lengths of the words need to be known: words of one length are consecutive numbers in the order of
their symbols, and go on from the shorter words. So a code is the list of the symbols with words of one
bit, of two bits and so on.
-/

namespace Telemetry

/-- The symbols with words of each length, from one bit on. -/
structure PrefixCode where
  groups : List (Array Nat)

namespace PrefixCode

/-- The longest length of a word. -/
def longest : Nat := 15

/-- The places in `lengths` that hold a given length. -/
def symbolsOfLength (lengths : List Nat) (length : Nat) : Array Nat :=
  ((lengths.zipIdx.filter fun entry => entry.1 == length).map Prod.snd).toArray

/-- The code in which symbol `i` has a word of the `i`-th length; zero stands for no word. -/
def ofLengths (lengths : List Nat) : PrefixCode :=
  ⟨(List.range longest).map fun length => symbolsOfLength lengths (length + 1)⟩

/-- How many symbols have a word. -/
def size (code : PrefixCode) : Nat :=
  code.groups.foldl (fun size group => size + group.size) 0

/-- The share of the words of the longest length that begin with a word of the code. -/
def covered (code : PrefixCode) : Nat :=
  code.groups.foldl (fun share group => 2 * share + group.size) 0

/-- Whether every sequence of bits begins with exactly one word. -/
def isComplete (code : PrefixCode) : Bool :=
  code.covered == 1 <<< longest

/-- Reads the word of a symbol, where `offset` is how far the bits read so far are beyond the words of
their length. -/
def symbolFrom? : List (Array Nat) → Nat → BitSource → Option (Nat × BitSource)
  | [], _, _ => none
  | group :: groups, offset, source =>
    match source.bit? with
    | none => none
    | some (bit, source) =>
      let place := 2 * offset + bit
      match group[place]? with
      | some symbol => some (symbol, source)
      | none => symbolFrom? groups (place - group.size) source

/-- Reads the word of a symbol. -/
def symbol? (code : PrefixCode) (source : BitSource) : Option (Nat × BitSource) :=
  symbolFrom? code.groups 0 source

end PrefixCode

end Telemetry
