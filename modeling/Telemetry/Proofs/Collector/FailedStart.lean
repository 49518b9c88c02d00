import Telemetry.Proofs.Collector.Opening
import Telemetry.Proofs.Disk
import Telemetry.Proofs.Store.MemoryCalls
import Telemetry.Proofs.Store.Snapshot

/-!
# Starts that fail

A collector that cannot start ends at once, and nothing has been answered by then. Its snapshot is left as it is,
unless the storage in memory has already been opened: when it is the address that cannot be listened at, the storage
is closed as after a life of any length, and that writes its snapshot. If the storage has been restored, the snapshot
says the same as before. If not, it holds nothing, and what had been saved is gone.
-/

namespace Telemetry

/-! ## What is saved -/

/-- What the file of a snapshot holds. A file that is not there holds no metrics. -/
inductive Saved
  | metrics (store : Store)
  | malformed (content : Bytes)
  | unreadable (cause : IoError)

/-- The metrics that are saved, by kind and name. -/
def Saved.get? (saved : Saved) (kind : Kind) (name : String) : Option Value :=
  match saved with
  | metrics store => store.get? kind name
  | malformed _ | unreadable _ => none

namespace Disk

variable {disk : Disk} {path : String} {store : Store}

/-- What is saved at a path. -/
def saved (disk : Disk) (path : String) : Saved :=
  match disk.read path with
  | .error .notFound => .metrics Store.empty
  | .error cause => .unreadable cause
  | .ok content =>
    match Store.ofSnapshot? content with
    | some store => .metrics store
    | none => .malformed content

theorem saved_congr {other : Disk} (same : disk.read path = other.read path) :
    disk.saved path = other.saved path := by
  rw [saved, saved, same]

theorem saved_of_read (finite : store.IsFinite) (found : disk.read path = .ok store.snapshotBytes) :
    disk.saved path = .metrics store := by
  unfold saved
  rw [found]
  dsimp only
  rw [Store.ofSnapshot?_snapshotBytes finite]

theorem saved_replace (finite : store.IsFinite)
    (replaced : (disk.replace path store.snapshotBytes).1 = .ok ()) :
    (disk.replace path store.snapshotBytes).2.saved path = .metrics store :=
  saved_of_read finite (read_replace replaced)

/-- Where a file cannot be replaced, what it holds stays. -/
theorem saved_of_replace_ne_ok {content : Bytes} (failed : (disk.replace path content).1 ≠ .ok ()) :
    (disk.replace path content).2.saved path = disk.saved path := by
  rw [replace_eq] at failed ⊢
  cases beside : disk.checkFile (sibling path) with
  | error cause => rfl
  | ok =>
    cases inPlace : disk.checkFile path with
    | error cause => exact saved_congr (read_put_sibling disk path content)
    | ok =>
      rw [beside, inPlace] at failed
      exact absurd rfl failed

/-- A storage that is restored begins with the metrics that are saved. -/
theorem saved_of_opening? (opens : Store.opening? true disk path = some store) :
    disk.saved path = .metrics store := by
  rw [Store.opening?, if_pos rfl] at opens
  unfold saved
  cases found : disk.read path with
  | ok content =>
    rw [found] at opens
    dsimp only at opens ⊢
    rw [opens]
  | error cause =>
    rw [found] at opens
    cases cause <;> cases opens
    rfl

end Disk

/-! ## Storages that are opened and closed again -/

namespace MemoryStorage

variable {storage : MemoryStorage} {file : SnapshotFile} {restore : Bool} {disk : Disk}

theorem shutdown_disk {Cause : Type} (kept : storage.file = some file) :
    (shutdown storage : Outcome MemoryStorage (Except Cause Unit)).world.disk =
      (storage.disk.replace file.path storage.store.snapshotBytes).2 := by
  have persistent : storage.isPersistent = true := by
    rw [isPersistent, kept]
    rfl
  rw [shutdown, if_pos persistent, saveReporting_world, save, kept]

theorem start_disk (file : Option SnapshotFile) (restore : Bool) (disk : Disk) :
    (start file restore disk).world.disk = disk := by
  unfold start
  split
  · dsimp only
    unfold load
    repeat' split
    all_goals rfl
  · rfl

theorem exists_opening_of_start (started : (start (some file) restore disk).result = .ok ()) :
    ∃ initial, Store.opening? restore disk file.path = some initial := by
  unfold Store.opening?
  cases restore with
  | false => exact ⟨_, rfl⟩
  | true =>
    rw [if_pos rfl]
    rw [start, if_pos rfl] at started
    cases found : disk.read file.path with
    | error cause =>
      cases cause with
      | notFound => exact ⟨_, rfl⟩
      | _ => simp [load, fresh, found, Except.map] at started
    | ok content =>
      cases decoded : Store.ofSnapshot? content with
      | some store => exact ⟨store, decoded⟩
      | none => simp [load, fresh, found, decoded, Except.map] at started

end MemoryStorage

namespace Collector

variable {listen : String → Nat → Except IoError Unit} {settings : CollectorSettings} {disk : Disk}
  {database : Database} {path : String} {cause : CollectorError}

theorem openStorage_disk (settings : CollectorSettings) (disk : Disk) (database : Database) :
    (openStorage settings disk database).world.disk = disk := by
  unfold openStorage
  split
  · rfl
  · exact MemoryStorage.start_disk _ _ _

theorem exists_openStorage_eq (inMemory : settings.database = none) (kept : settings.storeFile = some path)
    (opened : (openStorage settings disk database).result = .ok ()) :
    ∃ initial, Store.opening? settings.restore disk path = some initial ∧
      openStorage settings disk database =
        ⟨.ok (), .memory ⟨initial, some ⟨path, settings.storesEveryUpdate⟩, disk⟩, []⟩ := by
  unfold openStorage at opened ⊢
  rw [inMemory, kept] at opened ⊢
  obtain ⟨initial, opens⟩ := MemoryStorage.exists_opening_of_start opened
  refine ⟨initial, opens, ?_⟩
  dsimp only [Option.map]
  rw [MemoryStorage.start_eq opens]

/-- A storage that is opened and closed again leaves a snapshot of the store that it begins with. -/
theorem exists_closed_disk (inMemory : settings.database = none) (kept : settings.storeFile = some path)
    (opened : (openStorage settings disk database).result = .ok ()) :
    ∃ initial, Store.opening? settings.restore disk path = some initial ∧ initial.IsFinite ∧
      ((Storage.shutdown : Action Storage CollectorError Unit)
        (openStorage settings disk database).world).world.disk =
          (disk.replace path initial.snapshotBytes).2 := by
  obtain ⟨initial, opens, isOpened⟩ := exists_openStorage_eq inMemory kept opened
  have finite : initial.IsFinite := by
    have startsFinite := MemoryStorage.isFinite_start (some ⟨path, false⟩) settings.restore disk
    rwa [MemoryStorage.start_eq opens] at startsFinite
  refine ⟨initial, opens, finite, ?_⟩
  rw [isOpened]
  let storage : MemoryStorage := ⟨initial, some ⟨path, settings.storesEveryUpdate⟩, disk⟩
  exact MemoryStorage.shutdown_disk (show storage.file = some ⟨path, settings.storesEveryUpdate⟩ from rfl)

/-- A start fails before there is a storage, and has done nothing, or the storage is opened and closed again. -/
theorem start_error_cases (fails : (start listen settings disk database).result = .error cause) :
    ((∀ failure, cause ≠ .bind settings.address failure) ∧ (start listen settings disk database).world = disk) ∨
      (∃ failure, cause = .bind settings.address failure) ∧
        (openStorage settings disk database).result = .ok () ∧
        (start listen settings disk database).world =
          ((Storage.shutdown : Action Storage CollectorError Unit)
            (openStorage settings disk database).world).world.disk := by
  unfold start at fails ⊢
  cases loaded : PrivateKey.load disk settings.openingKey with
  | error keyCause =>
    rw [loaded] at fails
    cases fails
    refine .inl ⟨fun failure unbound => ?_, rfl⟩
    cases unbound
  | ok openingKey =>
    rw [loaded] at fails
    dsimp only at fails ⊢
    cases opened : (openStorage settings disk database).result with
    | error storageCause =>
      rw [opened] at fails
      cases fails
      refine .inl ⟨fun failure unbound => ?_, openStorage_disk settings disk database⟩
      cases unbound
    | ok _ =>
      rw [opened] at fails
      dsimp only at fails ⊢
      split at fails
      case h_1 failure _ =>
        cases fails
        exact .inr ⟨⟨failure, rfl⟩, rfl, rfl⟩
      case h_2 => cases fails

theorem start_of_unbound (key : Option PrivateKey) {failure : IoError}
    (loaded : PrivateKey.load disk settings.openingKey = .ok key)
    (opened : (openStorage settings disk database).result = .ok ())
    (unbound : ((listenAddress settings.address).bind fun (host, port) => listen host port) = .error failure) :
    (start listen settings disk database).result = .error (.bind settings.address failure) := by
  unfold start
  rw [loaded]
  dsimp only
  rw [opened]
  dsimp only
  rw [unbound]

/-- A start that fails has opened a storage in memory without its snapshot, and closes it again: it is the address
that cannot be listened at, and the file can be written. -/
structure Overwrites (settings : CollectorSettings) (disk : Disk) (path : String) (cause : CollectorError) :
    Prop where
  inMemory : settings.database = none
  unrestored : settings.restore = false
  unbound : ∃ failure, cause = .bind settings.address failure
  writable : (disk.replace path Store.empty.snapshotBytes).1 = .ok ()

/-- Whatever is in the file of the snapshot, and whyever a start fails, what is saved stays the same, malformed or not,
but for one case: where the storage is not restored and the address cannot be listened at, an empty snapshot takes the
place of what there was. -/
theorem failed_start_keeps_or_empties (kept : settings.storeFile = some path)
    (fails : (start listen settings disk database).result = .error cause) :
    (Overwrites settings disk path cause →
      (start listen settings disk database).world.saved path = .metrics Store.empty) ∧
    (¬Overwrites settings disk path cause →
      (start listen settings disk database).world.saved path = disk.saved path) := by
  rcases start_error_cases fails with ⟨notUnbound, untouched⟩ | ⟨unbound, opened, left⟩
  · rw [untouched]
    refine ⟨fun overwrites => ?_, fun _ => rfl⟩
    obtain ⟨failure, isUnbound⟩ := overwrites.unbound
    exact absurd isUnbound (notUnbound failure)
  cases chosen : settings.database with
  | some address =>
    have untouched : (start listen settings disk database).world = disk := by
      rw [left]
      unfold openStorage
      rw [chosen]
      rfl
    rw [untouched]
    refine ⟨fun overwrites => ?_, fun _ => rfl⟩
    cases chosen.symm.trans overwrites.inMemory
  | none =>
    obtain ⟨initial, opens, finite, closed⟩ := exists_closed_disk chosen kept opened
    rw [left, closed]
    by_cases writable : (disk.replace path initial.snapshotBytes).1 = .ok ()
    · rw [Disk.saved_replace finite writable]
      cases restored : settings.restore with
      | false =>
        rw [restored] at opens
        cases opens
        exact ⟨fun _ => rfl, fun spares => absurd ⟨chosen, restored, unbound, writable⟩ spares⟩
      | true =>
        rw [restored] at opens
        refine ⟨fun overwrites => ?_, fun _ => (Disk.saved_of_opening? opens).symm⟩
        cases restored.symm.trans overwrites.unrestored
    · rw [Disk.saved_of_replace_ne_ok writable]
      refine ⟨fun overwrites => ?_, fun _ => rfl⟩
      have isEmpty : initial = Store.empty := by
        rw [overwrites.unrestored] at opens
        exact (Option.some.inj opens).symm
      exact absurd (isEmpty ▸ overwrites.writable) writable

/-- A collector that is to listen at a port that there is not ends at once. If it is restored it leaves its snapshot
as good as it was, and if it is not, an empty one. -/
theorem failed_start_keeps_or_empties_unbound :
    let listen : String → Nat → Except IoError Unit := fun _ _ => .ok ()
    let path := "metrics_data"
    let settings (restore : Bool) : CollectorSettings := { address := "127.0.0.1:99999", restore }
    let held : Store := ⟨Roster.ofList [("Alloc", ⟨0x3ff8000000000000⟩)], Roster.empty⟩
    let disk := Disk.empty.put path (.file held.snapshotBytes)
    let database : Database := ⟨Store.empty, true, [], [], []⟩
    let cause : CollectorError := .bind "127.0.0.1:99999" (.other "invalid port value")
    let started (restore : Bool) := start listen (settings restore) disk database
    (∀ restore, (settings restore).storeFile = some path ∧ (started restore).result = .error cause) ∧
      disk.saved path = .metrics held ∧ (started true).world.saved path = .metrics held ∧
      (started false).world.saved path = .metrics Store.empty := by
  intro listen path settings held disk database cause started
  have finite : held.IsFinite := by
    unfold Store.IsFinite
    decide +kernel
  have isSaved : disk.saved path = .metrics held :=
    Disk.saved_of_read finite (Disk.read_put _ (by decide +kernel))
  have unbound (restore : Bool) :
      ((listenAddress (settings restore).address).bind fun (host, port) => listen host port) =
        .error (.other "invalid port value") := by
    have sameAddress : (settings restore).address = "127.0.0.1:99999" := rfl
    rw [sameAddress]
    decide +kernel
  have opens : Store.opening? true disk path = some held := by
    rw [Store.opening?, if_pos rfl, Disk.read_put _ (by decide +kernel)]
    exact Store.ofSnapshot?_snapshotBytes finite
  have fails (restore : Bool) : (started restore).result = .error cause := by
    refine start_of_unbound none rfl ?_ (unbound restore)
    cases restore with
    | false => rfl
    | true => exact congrArg Outcome.result (MemoryStorage.start_eq opens)
  refine ⟨fun restore => ⟨rfl, fails restore⟩, isSaved, ?_, ?_⟩
  · rw [← isSaved]
    refine (failed_start_keeps_or_empties rfl (fails true)).2 fun overwrites => ?_
    cases overwrites.unrestored
  · exact (failed_start_keeps_or_empties rfl (fails false)).1 ⟨rfl, rfl, ⟨_, rfl⟩, by decide +kernel⟩

/-- Not every start that fails leaves what is saved alone. -/
theorem failed_start_loses_metrics :
    ¬∀ (listen : String → Nat → Except IoError Unit) (settings : CollectorSettings) (disk : Disk)
      (database : Database) (path : String) (cause : CollectorError), settings.storeFile = some path →
        (start listen settings disk database).result = .error cause →
        (start listen settings disk database).world.saved path = disk.saved path := by
  intro keeps
  let settings : CollectorSettings := { address := "127.0.0.1:99999" }
  let held : Store := ⟨Roster.empty, Roster.ofList [("hits", ⟨7, by decide, by decide⟩)]⟩
  let disk := Disk.empty.put "metrics_data" (.file held.snapshotBytes)
  let database : Database := ⟨Store.empty, true, [], [], []⟩
  have unbound : ((listenAddress "127.0.0.1:99999").bind fun (_, _) => .ok ()) =
      .error (.other "invalid port value") := by
    decide +kernel
  have kept := keeps (fun _ _ => .ok ()) settings disk database "metrics_data" _ rfl
    (start_of_unbound none rfl rfl unbound)
  have sameTotal := congrArg (Saved.get? · .counter "hits") kept
  revert sameTotal
  decide +kernel

end Collector

end Telemetry
