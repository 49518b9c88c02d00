import Telemetry.Agent.Readings
import Telemetry.Number.Decimal

/-!
# Samplers

A sampler takes a sample of gauges at regular moments. Two are built in: one for the agent's own process,
whose samples are the polls that are counted, and one for the machine. Each has names of its own.
-/

namespace Telemetry

/-- What the operating system tells about the agent's process. -/
structure ProcessFacts where
  residentMemory : Binary64
  virtualMemory : Binary64
  processorUsage : Binary64
  runTime : Binary64
  diskRead : Binary64
  diskWritten : Binary64
  deriving DecidableEq, Repr

/-- What the operating system tells at one moment. -/
structure MachineFacts where
  /-- Nothing, if the process cannot be seen. -/
  process : Option ProcessFacts
  totalMemory : Nat
  freeMemory : Nat
  /-- How busy each processor is, in percent. -/
  processors : List Binary64
  /-- A value between zero and one that nobody can foretell. -/
  random : Binary64
  deriving DecidableEq, Repr

/-- A machine at rest, with one processor. -/
def MachineFacts.atRest : MachineFacts :=
  let zero := Binary64.zero false
  ⟨some ⟨zero, zero, zero, zero, zero, zero⟩, 1, 1, [zero], zero⟩

/-- The built-in samplers. -/
inductive Sampler
  | runtime
  | host
  deriving DecidableEq, Repr

namespace Sampler

/-- The samplers that an agent has. -/
def builtIn : List Sampler := [runtime, host]

/-- The name of a sampler in the log. -/
def name : Sampler → String
  | runtime => "runtime"
  | host => "host"

/-- The sampler with the given name. -/
def ofName? (name : String) : Option Sampler :=
  if name = "runtime" then some runtime
  else if name = "host" then some host
  else none

/-- Whether each sample counts as a poll. -/
def countsPolls : Sampler → Bool
  | runtime => true
  | host => false

/-- The gauges of the agent's process. -/
def ofProcess (facts : ProcessFacts) : Sample :=
  [("ResidentMemory", facts.residentMemory), ("VirtualMemory", facts.virtualMemory),
    ("CPUUsage", facts.processorUsage), ("RunTime", facts.runTime),
    ("DiskReadBytes", facts.diskRead), ("DiskWrittenBytes", facts.diskWritten)]

/-- A natural number as a value. -/
def whole (value : Nat) : Binary64 :=
  Decimal.nearest ⟨false, value, 0⟩

/-- The gauges of the memory, unless nothing is known about it. -/
def ofMemory (facts : MachineFacts) : Sample :=
  if facts.totalMemory = 0 then []
  else [("TotalMemory", whole facts.totalMemory), ("FreeMemory", whole facts.freeMemory)]

/-- The gauges of the processors, which are numbered from one. -/
def ofProcessors (usages : List Binary64) : Sample :=
  usages.zipIdx.map fun (usage, index) => ("CPUutilization" ++ toString (index + 1), usage)

/-- The sample that a sampler makes of what the operating system tells. -/
def sample (facts : MachineFacts) : Sampler → Sample
  | runtime => (facts.process.map ofProcess).getD [] ++ [("RandomValue", facts.random)]
  | host => ofMemory facts ++ ofProcessors facts.processors

end Sampler

end Telemetry
