import Telemetry.Store.Backend
import Telemetry.Store.Snapshot

/-!
# Storage in memory

A memory storage holds a store and may keep a snapshot of it in a file, written after every update or only
on demand. An update takes effect in memory whether or not the snapshot can be written: a failure to write
is reported in the log and nothing else.
-/

namespace Telemetry

/-- Where the snapshot of a store is kept. -/
structure SnapshotFile where
  path : String
  /-- Whether every update writes the snapshot before it returns. -/
  everyUpdate : Bool
  deriving DecidableEq, Repr

/-- A store in memory, and the disk that its snapshot may be on. -/
structure MemoryStorage where
  store : Store
  file : Option SnapshotFile
  disk : Disk
  deriving Inhabited

namespace MemoryStorage

/-- An empty store, with a snapshot file or without. -/
def fresh (file : Option SnapshotFile) (disk : Disk) : MemoryStorage :=
  ⟨Store.empty, file, disk⟩

/-- Whether there is a snapshot file. -/
def isPersistent (storage : MemoryStorage) : Bool :=
  storage.file.isSome

/-- Writes the snapshot. -/
def save : Action MemoryStorage StorageError Unit := fun storage =>
  match storage.file with
  | none => ⟨.ok (), storage, []⟩
  | some file =>
    let (result, disk) := storage.disk.replace file.path storage.store.snapshotBytes
    ⟨result.mapError (.snapshot file.path), { storage with disk }, []⟩

/-- Replaces the store by the snapshot and tells whether there was one. -/
def load : Action MemoryStorage StorageError Bool := fun storage =>
  match storage.file with
  | none => ⟨.ok false, storage, []⟩
  | some file =>
    match storage.disk.read file.path with
    | .error .notFound => ⟨.ok false, storage, []⟩
    | .error cause => ⟨.error (.snapshot file.path cause), storage, []⟩
    | .ok content =>
      match Store.ofSnapshot? content with
      | some store => ⟨.ok true, { storage with store }, []⟩
      | none => ⟨.error (.snapshotFormat file.path), storage, []⟩

/-- Writes the snapshot and reports a failure in the log under a heading. -/
def saveReporting {Cause : Type} (heading : String) : Action MemoryStorage Cause Unit := fun storage =>
  let outcome := save storage
  match outcome.result with
  | .ok _ => ⟨.ok (), outcome.world, outcome.log⟩
  | .error cause =>
    ⟨.ok (), outcome.world, outcome.log ++ [.error (heading ++ ": " ++ cause.message)]⟩

/-- Writes the snapshot if every update does so. -/
def afterUpdate : Action MemoryStorage StorageError Unit := fun storage =>
  if storage.file.any SnapshotFile.everyUpdate then
    saveReporting "Failed to write snapshot" storage
  else
    ⟨.ok (), storage, []⟩

/-- Changes the store, unless the change is refused, and then does what follows every update. -/
def update {Result : Type} (change : Store → Except ValidationError (Store × Result)) :
    Action MemoryStorage StorageError Result := fun storage =>
  match change storage.store with
  | .error cause => ⟨.error (.validation cause), storage, []⟩
  | .ok (store, result) =>
    let outcome := afterUpdate { storage with store }
    ⟨outcome.result.map fun _ => result, outcome.world, outcome.log⟩

/-- Looks at the store. -/
def inspect {Result : Type} (view : Store → Result) : Action MemoryStorage StorageError Result :=
  fun storage => ⟨.ok (view storage.store), storage, []⟩

/-- The calls of a storage in memory. -/
def backend : Backend MemoryStorage where
  ping := .done ()
  updateGauge name value :=
    update fun store => (store.setGauge name value).map fun store => (store, ())
  updateCounter name delta := update fun store => store.addCounter name delta
  getGauge name := inspect fun store => store.gauges.get? name
  getCounter name := inspect fun store => store.counters.get? name
  gaugeNames := inspect fun store => store.gauges.names
  counterNames := inspect fun store => store.counters.names
  updateBatch records := do
    Action.report (Batch.planLog records)
    update fun store => (store.updateBatch records).map fun store => (store, ())

end MemoryStorage

end Telemetry
