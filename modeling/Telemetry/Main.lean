import Telemetry.Shell.Reporting
import Telemetry.Shell.Serving

/-!
# The program

One program is the agent or the collector, as its argument says. All else it takes from the environment.
-/

namespace Telemetry

/-- How the program is called. -/
def usage : String := "usage: telemetry (agent | server)"

/-- The exit code of a program that was called in a wrong way. -/
def usageExitCode : UInt32 := 2

end Telemetry

/-- Runs the agent or the collector. -/
def main (arguments : List String) : IO UInt32 :=
  match arguments with
  | ["agent"] => Telemetry.Shell.runAgent.block
  | ["server"] => Telemetry.Shell.runCollector.block
  | _ => do
    IO.eprintln Telemetry.usage
    return Telemetry.usageExitCode
