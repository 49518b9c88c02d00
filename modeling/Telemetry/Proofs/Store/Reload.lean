import Telemetry.Proofs.Store.MemoryCalls
import Telemetry.Proofs.Store.Snapshot

/-!
# What is saved can be loaded

A storage in memory takes calls with any arguments, and loads whatever its file holds by then. It never comes to
hold a gauge that cannot be written, so at any time of its life what it saves is a snapshot that another storage
loads as it was. A file that holds no snapshot is refused, and then nothing is loaded.
-/

namespace Telemetry

namespace MemoryStorage

/-- A storage that there may be some time after it has been opened empty. Its snapshot may be loaded and saved
at any time, and anybody may change what is on the disk. -/
inductive Reached : MemoryStorage → Prop
  | fresh (file : Option SnapshotFile) (disk : Disk) : Reached (fresh file disk)
  | perform {storage : MemoryStorage} (call : StorageCall) (reached : Reached storage) :
    Reached (backend.perform call storage).world
  | load {storage : MemoryStorage} (reached : Reached storage) : Reached (load storage).world
  | save {storage : MemoryStorage} (reached : Reached storage) : Reached (save storage).world
  | meanwhile {storage : MemoryStorage} (disk : Disk) (reached : Reached storage) :
    Reached { storage with disk }

variable {storage : MemoryStorage}

theorem Reached.performAll (reached : Reached storage) (calls : List StorageCall) :
    Reached (backend.performAll storage calls).1 := by
  induction calls generalizing storage with
  | nil => exact reached
  | cons call calls inductionHypothesis => exact inductionHypothesis (reached.perform call)

theorem isFinite_perform (finite : storage.store.IsFinite) (call : StorageCall) :
    (backend.perform call storage).world.store.IsFinite := by
  cases answered : (backend.perform call storage).result with
  | error cause =>
    rw [perform_world_of_error answered]
    exact finite
  | ok answer => exact finite.applyAll (applyAll_of_perform_eq_ok answered).1

/-- At no time does a storage hold a gauge without a finite value. -/
theorem Reached.isFinite (reached : Reached storage) : storage.store.IsFinite := by
  induction reached with
  | fresh file disk => exact Store.isFinite_empty
  | perform call _ finite => exact isFinite_perform finite call
  | load _ finite => exact isFinite_load finite
  | save _ finite =>
    rw [save_store]
    exact finite
  | meanwhile disk _ finite => exact finite

theorem save_eq {file : SnapshotFile} (kept : storage.file = some file) (takes : storage.disk.Takes file.path) :
    save storage =
      ⟨.ok (), { storage with disk := (storage.disk.replace file.path storage.store.snapshotBytes).2 }, []⟩ := by
  have written := takes storage.store.snapshotBytes
  unfold save
  rw [kept]
  dsimp only
  rw [written]
  rfl

/-- At any time of its life a storage holds finite gauges only, and if its file can be written it saves itself so
that any other storage that finds the same file loads the same store. A storage with any file at all loads the
snapshot in it and says so, or says otherwise and stays as it is if there is none. -/
theorem loads_what_is_saved (storage : MemoryStorage) (reached : Reached storage) :
    (∀ name value, storage.store.gauges.get? name = some value → value.isFinite = true) ∧
    (∀ file, storage.file = some file → storage.disk.Takes file.path →
      (save storage).result = .ok () ∧ (save storage).world.store = storage.store ∧
      ∀ (other : MemoryStorage) (otherFile : SnapshotFile), other.file = some otherFile →
        other.disk.read otherFile.path = (save storage).world.disk.read file.path →
        load other = ⟨.ok true, { other with store := storage.store }, []⟩) ∧
    ∀ other : MemoryStorage,
      (∀ decoded, other.snapshot? = some decoded →
        load other = ⟨.ok true, { other with store := decoded }, []⟩) ∧
      (other.snapshot? = none → (load other).result ≠ .ok true ∧ (load other).world = other) := by
  have finite := reached.isFinite
  refine ⟨?_, ?_, fun other => ⟨fun decoded => load_of_snapshot?_eq_some, load_of_snapshot?_eq_none⟩⟩
  · intro name value held
    exact finite (name, value) (Roster.mem_entries_iff.2 held)
  · intro file kept takes
    refine ⟨by rw [save_eq kept takes], save_store storage, fun other otherFile keptToo sameContent => ?_⟩
    apply load_of_snapshot?_eq_some
    rw [save_eq kept takes, Disk.read_replace (takes _)] at sameContent
    rw [snapshot?, keptToo, Option.bind_some, sameContent]
    exact Store.ofSnapshot?_snapshotBytes finite

/-- Zero below zero is loaded as such under a name with a quote and a line break in it; what has no value has
been refused, and what the other storage held before is gone. -/
theorem loads_what_is_saved_below_zero :
    let name := "so\"called\n\u2603"
    let path := "metrics_data"
    let belowZero : Binary64 := ⟨0x8000000000000000⟩
    let least : Count := ⟨-2 ^ 63, by decide, by decide⟩
    let storage := (backend.performAll (.fresh (some ⟨path, false⟩) Disk.empty)
      [.updateGauge name belowZero, .updateGauge "noise" .nan, .updateCounter name least]).1
    let other : MemoryStorage :=
      ⟨⟨Roster.ofList [("old", belowZero)], Roster.empty⟩, some ⟨path, true⟩, (save storage).world.disk⟩
    storage.Reached ∧ storage.file = some ⟨path, false⟩ ∧ storage.disk.Takes path ∧
      (load other).result = .ok true ∧
      (load other).world.store.gauges.entries = [(name, belowZero)] ∧
      (load other).world.store.counters.entries = [(name, least)] := by
  intro name path belowZero least storage other
  have reached : storage.Reached := (Reached.fresh _ _).performAll _
  have kept : storage.file = some ⟨path, false⟩ := by decide
  have takes : storage.disk.Takes path := Disk.takes_of_checkFile (by decide +kernel) (by decide +kernel)
  obtain ⟨_, _, loads⟩ := (loads_what_is_saved storage reached).2.1 _ kept takes
  have loaded := loads other ⟨path, true⟩ rfl rfl
  refine ⟨reached, kept, takes, ?_, ?_, ?_⟩
  · rw [loaded]
  · rw [loaded]
    decide
  · rw [loaded]
    decide

end MemoryStorage

end Telemetry
