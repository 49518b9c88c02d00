import Telemetry.Collector.Basic

/-!
# Collectors that start

A collector in memory begins with the store whose snapshot it finds, if it is told to restore it, and with the
empty store otherwise. What else it needs to start has nothing to do with that store.
-/

namespace Telemetry

/-- The store that a collector begins with, if it can: with `restore`, the one whose snapshot is at the path,
or the empty one if nothing is there. -/
def Store.opening? (restore : Bool) (disk : Disk) (path : String) : Option Store :=
  if restore then
    match disk.read path with
    | .error .notFound => some Store.empty
    | .error _ => none
    | .ok content => Store.ofSnapshot? content
  else
    some Store.empty

theorem MemoryStorage.start_eq {file : SnapshotFile} {restore : Bool} {disk : Disk} {initial : Store}
    (opens : Store.opening? restore disk file.path = some initial) :
    start (some file) restore disk = ⟨.ok (), ⟨initial, some file, disk⟩, []⟩ := by
  unfold Store.opening? at opens
  unfold start
  cases restore with
  | false =>
    cases opens
    rfl
  | true =>
    rw [if_pos rfl] at opens ⊢
    split at opens
    · next absent =>
      cases opens
      have loaded : load (fresh (some file) disk) = ⟨.ok false, fresh (some file) disk, []⟩ := by
        simp only [load, fresh, absent]
      rw [loaded]
      rfl
    · cases opens
    · next content found =>
      have loaded : load (fresh (some file) disk) = ⟨.ok true, ⟨initial, some file, disk⟩, []⟩ := by
        simp only [load, fresh, found, opens]
      rw [loaded]
      rfl

namespace Collector

variable {path : String} {initial : Store}

/-- A collector gets all that it needs to start with its storage in memory and its snapshot at a path, apart
from the snapshot itself: its private key, if it has one, and the address that it listens at. -/
structure CanStart (listen : String → Nat → Except IoError Unit) (settings : CollectorSettings) (disk : Disk)
    (path : String) : Prop where
  storeFile : settings.storeFile = some path
  database : settings.database = none
  key : ∃ key, PrivateKey.load disk settings.openingKey = .ok key
  address : ((listenAddress settings.address).bind fun (host, port) => listen host port) = .ok ()

variable {listen : String → Nat → Except IoError Unit} {settings : CollectorSettings} {disk : Disk}

theorem exists_start (canStart : CanStart listen settings disk path)
    (opens : Store.opening? settings.restore disk path = some initial) (database : Database) :
    ∃ gate, (start listen settings disk database).result = .ok
      { gate
        storage := .memory ⟨initial, some ⟨path, settings.storesEveryUpdate⟩, disk⟩
        shutdownTimeout := settings.shutdownTimeout } := by
  obtain ⟨key, loaded⟩ := canStart.key
  have opened : openStorage settings disk database =
      ⟨.ok (), .memory ⟨initial, some ⟨path, settings.storesEveryUpdate⟩, disk⟩, []⟩ := by
    unfold openStorage
    rw [canStart.database, canStart.storeFile]
    dsimp only [Option.map]
    rw [MemoryStorage.start_eq opens]
  unfold start
  rw [loaded, opened, canStart.address]
  exact ⟨_, rfl⟩

/-- Whichever collector is restored from a snapshot with the content begins with the store. -/
def Restores (content : Bytes) (store : Store) : Prop :=
  ∀ listen settings disk path database, CanStart listen settings disk path → settings.restore = true →
    disk.read path = .ok content →
    ∃ collector storage, (start listen settings disk database).result = .ok collector ∧
      collector.storage = .memory storage ∧ storage.store = store

theorem restores_of_ofSnapshot? {content : Bytes} {store : Store}
    (decoded : Store.ofSnapshot? content = some store) : Restores content store := by
  intro listen settings disk path database canStart restores found
  have opens : Store.opening? settings.restore disk path = some store := by
    rw [Store.opening?, if_pos restores, found]
    exact decoded
  obtain ⟨gate, started⟩ := exists_start canStart opens database
  exact ⟨_, _, started, rfl, rfl⟩

end Collector

end Telemetry
