/-!
# Log lines

What happens beside the answer is reported in log lines. Only lines of the two upper severities are part
of the behaviour that is stated here; chattier lines are left to whoever runs the program.
-/

namespace Telemetry

/-- How grave a log line is. -/
inductive Severity
  | warning
  | error
  deriving DecidableEq, Repr

/-- One line of the log. -/
structure LogLine where
  severity : Severity
  message : String
  deriving DecidableEq, Repr

namespace LogLine

/-- A line about something unusual that was dealt with. -/
def warning (message : String) : LogLine := ⟨.warning, message⟩

/-- A line about something that failed. -/
def error (message : String) : LogLine := ⟨.error, message⟩

end LogLine

end Telemetry
