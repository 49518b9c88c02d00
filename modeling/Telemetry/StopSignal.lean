/-!
# Signals to stop

A running program stops in good order when one of these signals arrives.
-/

namespace Telemetry

/-- The signals that ask a program to stop. -/
inductive StopSignal
  | interrupt
  | terminate
  deriving DecidableEq, Repr

namespace StopSignal

/-- The name of a signal. -/
def name : StopSignal → String
  | interrupt => "INT"
  | terminate => "TERM"

/-- The signal with the given name. -/
def ofName? (name : String) : Option StopSignal :=
  if name = "INT" then some interrupt
  else if name = "TERM" then some terminate
  else none

end StopSignal

end Telemetry
