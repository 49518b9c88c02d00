import Telemetry.Store.Memory

/-!
# Snapshots at intervals

A storage in memory whose updates do not write the snapshot has it written at regular moments, and once
more when the storage is shut down. Nothing is lost by a failure to write: the next snapshot holds
everything again.
-/

namespace Telemetry

/-- The moments at which something is due: the next one, and how far apart they are. -/
structure Schedule where
  period : Nat
  next : Nat
  deriving DecidableEq, Repr

namespace Schedule

/-- The schedule that starts at `now` and is first due one period later. -/
def start (period now : Nat) : Schedule :=
  ⟨period, now + period⟩

/-- How many moments there are up to `now`. -/
def dueCount (schedule : Schedule) (now : Nat) : Nat :=
  if now < schedule.next ∨ schedule.period = 0 then 0
  else (now - schedule.next) / schedule.period + 1

/-- The schedule after the moments up to `now`. -/
def advance (schedule : Schedule) (now : Nat) : Schedule :=
  { schedule with next := schedule.next + schedule.dueCount now * schedule.period }

end Schedule

namespace MemoryStorage

variable {Cause : Type}

/-- Writes the snapshot a number of times, reporting each failure. -/
def flush : Nat → Action MemoryStorage Cause Unit
  | 0 => .done ()
  | times + 1 => do
    saveReporting "Failed to write snapshot"
    flush times

/-- Writes the last snapshot, if the storage keeps one. -/
def shutdown : Action MemoryStorage Cause Unit := fun storage =>
  if storage.isPersistent then
    saveReporting "Failed to write final snapshot" storage
  else
    ⟨.ok (), storage, []⟩

/-- A storage whose snapshot is written at intervals, and the time. -/
structure OnClock where
  storage : MemoryStorage
  schedule : Schedule
  now : Nat

/-- A storage whose first snapshot is due after one period. -/
def onClock (storage : MemoryStorage) (period : Nat) : OnClock :=
  ⟨storage, Schedule.start period 0, 0⟩

/-- Lets some time pass, and writes the snapshots that are due by then. -/
def OnClock.pass (duration : Nat) : Action OnClock Cause Unit := fun clock =>
  let now := clock.now + duration
  let outcome := (flush (clock.schedule.dueCount now) : Action MemoryStorage Cause Unit) clock.storage
  ⟨outcome.result, ⟨outcome.world, clock.schedule.advance now, now⟩, outcome.log⟩

/-- Opens a storage: with `restore`, its snapshot is loaded first. -/
def start (file : Option SnapshotFile) (restore : Bool) (disk : Disk) :
    Outcome MemoryStorage (Except StorageError Unit) :=
  let storage := fresh file disk
  if restore then
    let outcome := load storage
    ⟨outcome.result.map fun _ => (), outcome.world, outcome.log⟩
  else
    ⟨.ok (), storage, []⟩

end MemoryStorage

end Telemetry
