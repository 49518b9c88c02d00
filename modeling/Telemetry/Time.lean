/-!
# Durations

Durations are whole milliseconds.
-/

namespace Telemetry

/-- A duration, or a moment counted from some start, in milliseconds. -/
abbrev Milliseconds := Nat

namespace Milliseconds

/-- A number of seconds. -/
def ofSeconds (seconds : Nat) : Milliseconds :=
  1000 * seconds

/-- A number below a thousand as the places after a point, without zeros at the end. -/
def thousandths (value : Nat) : String :=
  let digits := (Nat.toDigits 10 (1000 + value)).drop 1
  String.ofList (digits.reverse.dropWhile (· == '0')).reverse

/-- A duration with the largest unit that it fills: seconds, which may have places after a point, or
milliseconds. -/
def text (duration : Milliseconds) : String :=
  if duration = 0 then
    "0ns"
  else if duration < 1000 then
    toString duration ++ "ms"
  else if duration % 1000 = 0 then
    toString (duration / 1000) ++ "s"
  else
    toString (duration / 1000) ++ "." ++ thousandths (duration % 1000) ++ "s"

end Milliseconds

end Telemetry
