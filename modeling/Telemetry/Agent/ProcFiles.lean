import Telemetry.Agent.Sampler
import Telemetry.Text.Blank
import Telemetry.Text.Pieces

/-!
# What the operating system tells

The operating system tells about a process and about the machine in texts: numbers in a fixed order, or
lines with a label each. Processor times are sums since the start, so how busy a processor is follows from
two moments.
-/

namespace Telemetry

/-- The texts at one moment. -/
structure ProcFiles where
  /-- The memory of the process in pages: virtual, then resident. -/
  pages : String
  /-- The state of the process, field by field. -/
  state : String
  /-- How much the process has read and written. -/
  transfers : String
  /-- For how long the machine has been running, in seconds. -/
  uptime : String
  /-- The memory of the machine. -/
  memory : String
  /-- The times of the processors. -/
  processors : String
  deriving Inhabited

namespace ProcFiles

/-- The size of a page in bytes. -/
def pageSize : Nat := 4096

/-- How many units of processor time there are in a second. -/
def ticksPerSecond : Nat := 100

/-- The words of a text. -/
def words (text : String) : List String :=
  let spaced := text.toList.map fun character => if character = '\n' ∨ character = '\t' then ' ' else character
  ((Text.pieces ' ' spaced).filter fun word => !word.isEmpty).map String.ofList

/-- The lines of a text. -/
def lines (text : String) : List String :=
  (Text.pieces '\n' text.toList).map String.ofList

/-- The natural number at the start of a word. -/
def numberOf (word : String) : Nat :=
  (Decimal.natural? (word.toList.takeWhile Char.isDigit)).getD 0

/-- The number after a label. -/
def labelled? (label text : String) : Option Nat :=
  (lines text).findSome? fun line =>
    match words line with
    | first :: second :: _ => if first = label then some (numberOf second) else none
    | _ => none

/-- The fields of the state of the process after its name, which stands in parentheses. -/
def stateFields (files : ProcFiles) : List String :=
  words (String.ofList (files.state.toList.reverse.takeWhile (· != ')')).reverse)

/-- A field of the state of the process as a number, counted from the one after the name. -/
def stateNumber (files : ProcFiles) (index : Nat) : Nat :=
  numberOf ((files.stateFields[index]?).getD "")

/-- The processor time that the process has taken. -/
def processTime (files : ProcFiles) : Nat :=
  files.stateNumber 11 + files.stateNumber 12

/-- The busy time and the whole time of one processor, from its line. -/
def processorTimes (times : List Nat) : Nat × Nat :=
  let whole := times.foldl (· + ·) 0
  let idle := ((times.drop 3).take 2).foldl (· + ·) 0
  (whole - idle, whole)

/-- The times of the processors, one after another. -/
def processorLines (files : ProcFiles) : List (Nat × Nat) :=
  (lines files.processors).filterMap fun line =>
    match words line with
    | name :: times =>
      if name.startsWith "cpu" && name != "cpu" then
        some (processorTimes ((times.map numberOf).take 8))
      else
        none
    | [] => none

/-- A part of a whole in percent, to one place. -/
def percent (part whole : Nat) : Binary64 :=
  if whole = 0 then Binary64.zero false else Decimal.nearest ⟨false, 1000 * part / whole, -1⟩

/-- The facts about the process, `elapsed` hundredths of a second after `before`. -/
def process (before files : ProcFiles) (elapsed : Nat) : Option ProcessFacts :=
  match (words files.pages).map numberOf with
  | virtualPages :: residentPages :: _ =>
    some
      { residentMemory := Sampler.whole (pageSize * residentPages)
        virtualMemory := Sampler.whole (pageSize * virtualPages)
        processorUsage := percent (files.processTime - before.processTime) elapsed
        runTime := Sampler.whole (numberOf files.uptime - files.stateNumber 19 / ticksPerSecond)
        diskRead := Sampler.whole ((labelled? "read_bytes:" files.transfers).getD 0)
        diskWritten := Sampler.whole ((labelled? "write_bytes:" files.transfers).getD 0) }
  | _ => none

/-- How busy the processors were between two moments. -/
def usages (before files : ProcFiles) : List Binary64 :=
  (files.processorLines.zipIdx).map fun (times, index) =>
    let first := (before.processorLines[index]?).getD (0, 0)
    percent (times.1 - first.1) (times.2 - first.2)

/-- The facts at one moment, `elapsed` hundredths of a second after `before`. -/
def facts (before files : ProcFiles) (elapsed : Nat) (random : Binary64) : MachineFacts :=
  { process := process before files elapsed
    totalMemory := 1024 * (labelled? "MemTotal:" files.memory).getD 0
    freeMemory := 1024 * (labelled? "MemFree:" files.memory).getD 0
    processors := usages before files
    random }

end ProcFiles

end Telemetry
