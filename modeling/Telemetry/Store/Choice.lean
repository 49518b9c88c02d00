import Telemetry.Store.DatabaseStorage
import Telemetry.Store.Flusher

/-!
# Storage of either kind

A collector keeps metrics in memory or in a database. The disk belongs to the storage in memory; a storage
in a database leaves it alone.
-/

namespace Telemetry

/-- A storage in memory or in a database. -/
inductive Storage
  | memory (storage : MemoryStorage)
  | database (database : Database) (disk : Disk)

namespace Storage

variable {Cause Result : Type}

/-- The disk. -/
def disk : Storage → Disk
  | memory storage => storage.disk
  | database _ disk => disk

/-- The storage with another disk. -/
def withDisk (disk : Disk) : Storage → Storage
  | memory storage => memory { storage with disk }
  | database held _ => database held disk

/-- Where the snapshot is kept, if one is. -/
def file? : Storage → Option SnapshotFile
  | memory storage => storage.file
  | database _ _ => none

/-- The storage with its snapshot kept elsewhere or nowhere. A storage in a database keeps none. -/
def withFile (file : Option SnapshotFile) : Storage → Storage
  | memory storage => memory { storage with file }
  | database held disk => database held disk

/-- An action on whichever storage there is. -/
def either (inMemory : Action MemoryStorage Cause Result) (inDatabase : Action Database Cause Result) :
    Action Storage Cause Result
  | .memory storage =>
    let outcome := inMemory storage
    ⟨outcome.result, .memory outcome.world, outcome.log⟩
  | .database held disk =>
    let outcome := inDatabase held
    ⟨outcome.result, .database outcome.world disk, outcome.log⟩

/-- The calls of a storage of either kind. -/
def backend : Backend Storage :=
  let here := MemoryStorage.backend
  let there := DatabaseStorage.backend
  { ping := either here.ping there.ping
    updateGauge := fun name value => either (here.updateGauge name value) (there.updateGauge name value)
    updateCounter := fun name delta =>
      either (here.updateCounter name delta) (there.updateCounter name delta)
    getGauge := fun name => either (here.getGauge name) (there.getGauge name)
    getCounter := fun name => either (here.getCounter name) (there.getCounter name)
    gaugeNames := either here.gaugeNames there.gaugeNames
    counterNames := either here.counterNames there.counterNames
    updateBatch := fun records => either (here.updateBatch records) (there.updateBatch records) }

/-- Writes the last snapshot, if one is kept. -/
def shutdown : Action Storage Cause Unit :=
  either MemoryStorage.shutdown (.done ())

end Storage

end Telemetry
