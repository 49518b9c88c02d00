import Telemetry.Setting.LogFilter
import Std.Time

/-!
# The log

Lines of the log are written to the standard output, each with its moment, its severity and its source, if
the level of the log shows them.
-/

namespace Telemetry.Shell

/-- The name of a severity in the log. -/
def severityName : Severity → String
  | .warning => " WARN"
  | .error => "ERROR"

/-- Where a program logs to: its own name as a source, and the level of its log. -/
structure Reporter where
  source : String
  level : String

namespace Reporter

/-- Writes a line. -/
def write (reporter : Reporter) (line : LogLine) : IO Unit := do
  let moment := Std.Time.DateTime.ofTimestampWithZone (← Std.Time.Timestamp.now) .UTC
  IO.println (moment.toISO8601String ++ " " ++ severityName line.severity ++ " " ++ reporter.source ++
    ": " ++ line.message)
  (← IO.getStdout).flush

/-- Reports a line, if the log shows it. -/
def report (reporter : Reporter) (line : LogLine) : IO Unit :=
  if LogFilter.shows reporter.level reporter.source line then reporter.write line else return

/-- Reports lines one after another. -/
def reportAll (reporter : Reporter) (lines : List LogLine) : IO Unit :=
  lines.forM reporter.report

end Reporter

end Telemetry.Shell
