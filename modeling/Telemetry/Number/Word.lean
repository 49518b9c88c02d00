import Telemetry.Number.Count

/-!
# Machine words

Sizes are computed in words of 64 bits. What happens to a number that does not fit depends on how the program
has been built.
-/

namespace Telemetry

/-- What becomes of a number that does not fit into a word. -/
inductive Overflow
  /-- It stops the program. -/
  | stops
  /-- It loses what does not fit. -/
  | wraps
  deriving DecidableEq, Repr

/-- A number in a word, unless it stops the program. -/
def Overflow.word? (overflow : Overflow) (value : Nat) : Option Nat :=
  if value < wordLimit then some value
  else
    match overflow with
    | stops => none
    | wraps => some (value % wordLimit)

end Telemetry
