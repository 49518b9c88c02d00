import Telemetry.Metric.Basic
import Telemetry.Store.Roster

/-!
# Readings

The agent keeps the last finite reading of each gauge and counts the polls that took them. From these it
builds batches of records: gauges in ascending order of their names, and then the number of polls.

The number of polls travels as a counter, and the counter carries the whole count each time.
-/

namespace Telemetry

namespace Count

/-- The greatest count. -/
def greatest : Count := ⟨0x7fffffffffffffff, by decide, by decide⟩

/-- The count nearest to a natural number: the number itself, if it is in range. -/
def nearest (value : Nat) : Count :=
  (ofInt? value).getD greatest

theorem toInt_nearest {value : Nat} (inRange : value < 0x8000000000000000) : (nearest value).toInt = value := by
  unfold nearest
  cases found : ofInt? (value : Int) with
  | some count => exact ofInt?_eq_some_iff.1 found
  | none =>
    rcases ofInt?_eq_none_iff.1 found with below | above <;> omega

end Count

/-- A set of values by name, as it is read at one moment. -/
abbrev Sample := List (String × Binary64)

/-- The last reading of each gauge, and how many polls were counted. -/
structure Readings where
  gauges : Roster Binary64
  polls : Nat
  deriving Inhabited

namespace Readings

/-- Before anything is read. -/
def empty : Readings := ⟨Roster.empty, 0⟩

/-- Whether there is nothing to tell. -/
def isEmpty (readings : Readings) : Bool :=
  readings.gauges.entries.isEmpty && readings.polls == 0

/-- Takes in one sample; what is not finite is left out. -/
def record (readings : Readings) (sample : Sample) (countsPoll : Bool) : Readings where
  gauges :=
    (sample.filter fun reading => reading.2.isFinite).foldl
      (fun gauges (name, value) => gauges.insert name value) readings.gauges
  polls := if countsPoll then readings.polls + 1 else readings.polls

/-- The name of the counter of polls. -/
def pollCounter : String := "PollCount"

/-- The records of the gauges. -/
def gaugeRecords (readings : Readings) : Batch :=
  readings.gauges.entries.map fun (name, value) => Record.gauge name value

/-- The record of the number of polls. -/
def pollRecord (readings : Readings) : Record :=
  Record.counter pollCounter (Count.nearest readings.polls)

/-- The batch that is sent at intervals. -/
def batch (readings : Readings) : Batch :=
  readings.gaugeRecords ++ [readings.pollRecord]

/-- The batch that is sent in the end, if there is anything to tell; a number of zero is left out. -/
def finalBatch? (readings : Readings) : Option Batch :=
  if readings.isEmpty then none
  else if readings.polls = 0 then some readings.gaugeRecords
  else some readings.batch

end Readings

end Telemetry
