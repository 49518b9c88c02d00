import Telemetry.Collector.Conversation
import Telemetry.Proofs.Collector.Postponing
import Telemetry.Proofs.Collector.Steps

/-!
# Requests that nothing disturbs

If nothing comes in between, whoever may write the snapshot goes on to its end, and what comes of that can be told
from the phase it is in. So a request whose snapshot is written with nothing in between does what the gate does in
one step over the storage with its snapshot: it gets the same response, leaves the same store and the same disk
behind, and logs the same.
-/

namespace Telemetry

/-! ## Snapshots with nothing in between -/

/-- Why a file has not got a new content, if it has not, and the disk that is left. -/
def Disk.replacing (disk : Disk) (path : String) (content : Bytes) : Option IoError × Disk :=
  match disk.replace path content with
  | (.error cause, left) => (some cause, left)
  | (.ok _, left) => (none, left)

/-- Why a snapshot will not have been written, if it will not, and the disk that will be left, where a client
goes on from a phase to its end with nothing in between. -/
def SavingPhase.outcome (content : Bytes) (disk : Disk) (path : String) : SavingPhase → Option IoError × Disk
  | waiting | admitted => disk.replacing path content
  | copied copy => disk.replacing path copy
  | written =>
    match disk.rename (Disk.sibling path) path with
    | .error cause => (some cause, disk)
    | .ok renamed => (none, renamed)
  | ended failure | released failure => (failure, disk)

namespace Saving

variable {saving next : Saving} {client : Nat} {phase after : SavingPhase}

/-- A step does not change what will come of the snapshot. -/
theorem GoesOn.outcome_eq (goesOn : saving.GoesOn client phase next) (found : next.phase? client = some after) :
    after.outcome saving.store.snapshotBytes next.disk saving.path =
      phase.outcome saving.store.snapshotBytes saving.disk saving.path := by
  cases goesOn with
  | enters free =>
    cases phase_eq_of_setPhase found
    rfl
  | copies =>
    cases phase_eq_of_setPhase found
    rfl
  | failsToWrite failed =>
    cases phase_eq_of_setPhase found
    simp only [SavingPhase.outcome, Disk.replacing, Disk.replace, failed, setPhase]
  | @writes content disk wrote =>
    cases phase_eq_of_setPhase found
    simp only [SavingPhase.outcome, Disk.replacing, Disk.replace, wrote, setPhase]
    cases disk.rename (Disk.sibling saving.path) saving.path <;> rfl
  | failsToRename failed =>
    cases phase_eq_of_setPhase found
    simp only [SavingPhase.outcome, failed, setPhase]
  | renames moved =>
    cases phase_eq_of_setPhase found
    simp only [SavingPhase.outcome, moved, setPhase]
  | releases failure =>
    cases phase_eq_of_setPhase found
    rfl
  | finishes failure =>
    rw [phase?, phase?_others, if_pos rfl] at found
    cases found

/-- Whoever is not inside after a step has let the others in. -/
theorem GoesOn.writer_eq_none (goesOn : saving.GoesOn client phase next) (found : next.phase? client = some after)
    (outside : after.isInside = false) : next.writer = none := by
  cases goesOn with
  | releases failure => rfl
  | finishes failure =>
    rw [phase?, phase?_others, if_pos rfl] at found
    cases found
  | _ =>
    cases phase_eq_of_setPhase found
    cases outside

end Saving

namespace Collector

variable {collector : Collector} {event : CollectorEvent} {events : List CollectorEvent}
  {saving saved : Saving} {phase : SavingPhase} {saver : Nat}

theorem follow_cons_of_step {done : Collector × List CollectorEffect}
    (stepped : collector.step event = some done) :
    collector.follow (event :: events) = ((done.1.follow events).1, done.2 ++ (done.1.follow events).2) := by
  rw [follow, stepped]

theorem follow_cons_of_none (cannot : collector.step event = none) :
    collector.follow (event :: events) = collector.follow events := by
  rw [follow, cannot]

/-- Nobody goes on who does not save. -/
theorem follow_goOn_of_idle (collector : Collector) (idle : collector.savers.lookup saver = none) (count : Nat) :
    collector.follow (List.replicate count (.goOn saver)) = (collector, []) := by
  have cannot : collector.step (.goOn saver) = none := by
    rw [step, saveOn]
    cases saves : collector.saving? with
    | none => rfl
    | some saving =>
      obtain ⟨storage, file, _, _, rfl⟩ := exists_of_saving? saves
      rw [Option.bind_some, Saving.phase?, idle]
      rfl
  induction count with
  | zero => rfl
  | succ count inductionHypothesis =>
    rw [List.replicate_succ, follow_cons_of_none cannot, inductionHypothesis]

theorem saving?_afterSaving (saves : collector.saving? = some saving)
    (goesOn : saving.GoesOn saver phase saved) :
    (collector.afterSaving saved).saving? = some saved := by
  obtain ⟨storage, file, inMemory, kept, rfl⟩ := exists_of_saving? saves
  have inMemoryAfter : (collector.afterSaving saved).storage = .memory { storage with disk := saved.disk } := by
    rw [afterSaving, inMemory]
    rfl
  obtain ⟨sameStore, samePath⟩ := goesOn.store_eq
  dsimp only at sameStore samePath
  rw [saving?_eq inMemoryAfter kept, ← sameStore, ← samePath]
  rfl

/-- The collector after one has gone on to the end of its snapshot with nothing in between. -/
def undisturbed (collector : Collector) (saving : Saving) (saver : Nat) (phase : SavingPhase) :
    Collector × List CollectorEffect :=
  let outcome := phase.outcome saving.store.snapshotBytes saving.disk saving.path
  let next := collector.afterSaving
    { saving with disk := outcome.2, writer := none, clients := saving.others saver }
  next.afterSnapshot saver outcome.1

theorem savers_undisturbed (collector : Collector) (saving : Saving) (saver : Nat) (phase : SavingPhase) :
    (collector.undisturbed saving saver phase).1.savers = saving.others saver :=
  (afterPhase_keeps _ saver (.released _)).2.1

/-- A step does not change how it will end. -/
theorem undisturbed_afterSaving {after : SavingPhase} (goesOn : saving.GoesOn saver phase saved)
    (moved : saved.clients = (saver, after) :: saving.others saver) :
    (collector.afterSaving saved).undisturbed saved saver after = collector.undisturbed saving saver phase := by
  obtain ⟨sameStore, samePath⟩ := goesOn.store_eq
  have sameOthers : saved.others saver = saving.others saver := by
    rw [Saving.others, moved, List.filter_cons_of_neg (by simp), Saving.others, List.filter_filter]
    simp
  have found : saved.phase? saver = some after := by
    rw [Saving.phase?, moved, List.lookup_cons_self]
  have sameOutcome := goesOn.outcome_eq found
  have sameDisk (disk : Disk) : (collector.storage.withDisk saved.disk).withDisk disk =
      collector.storage.withDisk disk := by
    cases collector.storage <;> rfl
  unfold undisturbed
  dsimp only
  rw [sameOthers, sameStore, samePath, sameOutcome, afterSaving, afterSaving, afterSaving]
  dsimp only
  rw [sameDisk]

/-- Whoever may write goes on to the end of its snapshot. -/
theorem follow_goOn {count : Nat} (saves : collector.saving? = some saving)
    (found : saving.phase? saver = some phase) (free : phase.isInside = false → saving.writer = none)
    (enough : phase.remaining ≤ count) :
    collector.follow (List.replicate count (.goOn saver)) = collector.undisturbed saving saver phase := by
  induction count generalizing collector saving phase with
  | zero => cases phase <;> cases enough
  | succ count inductionHypothesis =>
    have mayStep : phase = .waiting → saving.writer = none := by
      rintro rfl
      exact free rfl
    obtain ⟨saved, savingEffects, stepped⟩ := Saving.exists_step_next found mayStep
    have goesOn := Saving.goesOn_of_step found stepped
    rw [List.replicate_succ, follow_cons_of_step (step_goOn saves found stepped)]
    rcases goesOn.clients_eq with ⟨same, failure, rfl⟩ | ⟨after, same, nearer, unfinished⟩
    · have ends : (collector.afterSaving saved).afterPhase saver (.released failure) =
          collector.undisturbed saving saver (.released failure) := by
        obtain ⟨store, disk, path, writer, clients⟩ := saving
        cases free rfl
        cases goesOn
        rfl
      have idle : (collector.undisturbed saving saver (.released failure)).1.savers.lookup saver = none := by
        rw [savers_undisturbed, Saving.phase?_others, if_pos rfl]
      rw [ends, follow_goOn_of_idle _ idle, List.append_nil]
    · have moves : (collector.afterSaving saved).afterPhase saver phase =
          (collector.afterSaving saved, []) := by
        unfold afterPhase
        split
        · exact absurd rfl (unfinished _)
        · rfl
      have reached : saved.phase? saver = some after := by
        rw [Saving.phase?, same, List.lookup_cons_self]
      have rest := inductionHypothesis (saving?_afterSaving saves goesOn) reached
        (goesOn.writer_eq_none reached) (Nat.le_of_lt_succ (Nat.lt_of_lt_of_le nearer enough))
      rw [moves, List.nil_append, rest, undisturbed_afterSaving goesOn same]

/-! ## A request with its snapshot -/

end Collector

namespace MemoryStorage

variable {storage : MemoryStorage} {path : String}

theorem exists_of_everyUpdate (every : storage.file.any SnapshotFile.everyUpdate = true) :
    ∃ path, storage.file = some ⟨path, true⟩ := by
  obtain ⟨store, _ | ⟨path, everyUpdate⟩, disk⟩ := storage
  · cases every
  · have isEvery : everyUpdate = true := every
    exact ⟨path, isEvery ▸ rfl⟩

theorem afterUpdate_of_not_everyUpdate (storage : MemoryStorage)
    (notEvery : storage.file.any SnapshotFile.everyUpdate = false) :
    afterUpdate storage = ⟨.ok (), storage, []⟩ := by
  rw [afterUpdate, notEvery]
  rfl

/-- What follows an update is to write the snapshot, and to report why that has failed. -/
theorem afterUpdate_eq (kept : storage.file = some ⟨path, true⟩) :
    let outcome := storage.disk.replacing path storage.store.snapshotBytes
    afterUpdate storage = ⟨.ok (), { storage with disk := outcome.2 },
      match outcome.1 with
      | none => []
      | some cause =>
        [.error ("Failed to write snapshot" ++ ": " ++ (StorageError.snapshot path cause).message)]⟩ := by
  obtain ⟨store, _, disk⟩ := storage
  cases kept
  unfold afterUpdate saveReporting save Disk.replacing
  dsimp only [Option.any]
  rw [if_pos rfl]
  rcases disk.replace path store.snapshotBytes with ⟨_ | _, left⟩ <;> rfl

end MemoryStorage

namespace Collector

variable {collector : Collector} {storage : MemoryStorage} {path : String} {connection : Nat}

theorem savingLines_eq {file : SnapshotFile} (heading : String) (kept : collector.storage.file? = some file)
    (failure : Option IoError) :
    collector.savingLines heading failure =
      match failure with
      | none => []
      | some cause => [.error (heading ++ ": " ++ (StorageError.snapshot file.path cause).message)] := by
  unfold savingLines
  rw [kept]
  cases failure <;> rfl

/-- A connection that waits for its snapshot is answered after what follows an update. -/
theorem follow_snapshotEvents (collector : Collector) (kept : storage.file = some ⟨path, true⟩)
    (notOwn : connection ≠ ownNumber) (free : collector.writer = none)
    (unheld : collector.answers.lookup connection = none) (unsaved : collector.savers.lookup connection = none)
    (response : Response) :
    let next := { collector with storage := .memory storage }
    let saved := MemoryStorage.afterUpdate storage
    ({ next with answers := (connection, response) :: next.answers }.beginSaving connection).follow
        (snapshotEvents connection) =
      ({ collector with storage := .memory saved.world },
        logging saved.log ++ [.respond connection response]) := by
  intro next saved
  let waiting := { next with answers := (connection, response) :: next.answers }.beginSaving connection
  let saving : Saving := ⟨storage.store, storage.disk, path, waiting.writer, waiting.savers⟩
  let outcome := storage.disk.replacing path storage.store.snapshotBytes
  have saves : waiting.saving? = some saving := saving?_eq rfl kept
  have found : saving.phase? connection = some .waiting := List.lookup_cons_self
  have othersSave : saving.others connection = collector.savers :=
    (List.filter_cons_of_neg (by simp)).trans (filter_ne_of_lookup_eq_none unsaved)
  have othersWait : (waiting.answers.filter fun held => held.1 != connection) = collector.answers :=
    (List.filter_cons_of_neg (by simp)).trans (filter_ne_of_lookup_eq_none unheld)
  have held : waiting.answers.lookup connection = some response := List.lookup_cons_self
  have keptAfter : (Storage.memory { storage with disk := outcome.2 }).file? = some ⟨path, true⟩ := kept
  have isSaved : saved = _ := MemoryStorage.afterUpdate_eq kept
  refine (follow_goOn saves found (fun _ => free) (Nat.le_refl 6)).trans ?_
  rw [undisturbed, othersSave, afterSnapshot_of_ne notOwn, isSaved]
  refine Prod.ext ?_ ?_
  · show { waiting with
      storage := .memory { storage with disk := outcome.2 }
      answers := waiting.answers.filter fun held => held.1 != connection
      savers := collector.savers
      writer := none } = _
    rw [othersWait, ← free]
    rfl
  · show logging (savingLines _ _ outcome.1) ++
      ((waiting.answers.lookup connection).map (.respond connection)).toList = _
    rw [held, savingLines_eq _ keptAfter]
    rfl

/-- A request is handled as where no snapshot is kept, and its connection waits if the snapshot is to be
written. -/
theorem handle_inMemory (inMemory : collector.storage = .memory storage) (connection : Nat) (request : Request) :
    let handled := collector.gate.handle MemoryStorage.backend request { storage with file := none }
    let next := { collector with storage := .memory { handled.2.1 with file := storage.file } }
    let effects := logging handled.2.2 ++ [.handle connection handled.1]
    collector.handle connection request =
      if storage.file.any SnapshotFile.everyUpdate && collector.gate.updatesStore request handled.1 then
        ({ next with answers := (connection, handled.1) :: next.answers }.beginSaving connection, effects)
      else
        (next, effects ++ [.respond connection handled.1]) := by
  have bare : collector.storage.withFile none = .memory { storage with file := none } := by
    rw [inMemory]
    rfl
  have sameFile : collector.storage.file? = storage.file := by
    rw [inMemory]
    rfl
  unfold handle
  rw [bare, sameFile, Gate.handle_embed Storage.backend_lifts]
  rfl

/-- A request with nothing in between does what the gate does over the storage with its snapshot. -/
theorem follow_requestEvents (orderly : Orderly collector) (inMemory : collector.storage = .memory storage)
    (idle : collector.isIdle connection = true) (free : collector.writer = none) (request : Request) :
    let handled := collector.gate.handle MemoryStorage.backend request storage
    ∃ lines later, lines ++ later = handled.2.2 ∧
      collector.follow (requestEvents connection request) =
        ({ collector with storage := .memory handled.2.1 },
          logging lines ++ [.handle connection handled.1] ++
            (logging later ++ [.respond connection handled.1])) := by
  intro handled
  let bare := collector.gate.handle MemoryStorage.backend request { storage with file := none }
  let next : MemoryStorage := { bare.2.1 with file := storage.file }
  obtain ⟨isOpen, unheld, unsaved⟩ := orderly.of_isIdle idle
  have handles : handled = if collector.gate.updatesStore request bare.1 then
      (bare.1, (MemoryStorage.afterUpdate next).world, bare.2.2 ++ (MemoryStorage.afterUpdate next).log)
      else (bare.1, next, bare.2.2) := collector.gate.handle_eq request storage
  have stepped : collector.step (.request connection request) = some (collector.handle connection request) :=
    if_pos idle
  have begins := handle_inMemory inMemory connection request
  rw [requestEvents, follow_cons_of_step stepped, begins]
  by_cases saves :
      (storage.file.any SnapshotFile.everyUpdate && collector.gate.updatesStore request bare.1) = true
  · obtain ⟨every, updates⟩ := (Bool.and_eq_true _ _).mp saves
    obtain ⟨path, kept⟩ := MemoryStorage.exists_of_everyUpdate every
    have stillKept : next.file = some ⟨path, true⟩ := kept
    have rest := collector.follow_snapshotEvents stillKept (orderly.ne_ownNumber isOpen) free unheld unsaved bare.1
    rw [if_pos updates] at handles
    rw [if_pos saves, handles]
    refine ⟨bare.2.2, (MemoryStorage.afterUpdate next).log, rfl, ?_⟩
    exact congrArg (fun done => (done.1, logging bare.2.2 ++ [.handle connection bare.1] ++ done.2)) rest
  · have sameHandled : handled = (bare.1, next, bare.2.2) := by
      rw [handles]
      split
      · next updates =>
        have notEvery : next.file.any SnapshotFile.everyUpdate = false := by
          rwa [updates, Bool.and_true, Bool.not_eq_true] at saves
        rw [MemoryStorage.afterUpdate_of_not_everyUpdate next notEvery, List.append_nil]
      · rfl
    have rest := follow_goOn_of_idle { collector with storage := .memory next } unsaved 6
    rw [if_neg saves, sameHandled]
    refine ⟨bare.2.2, [], List.append_nil _, ?_⟩
    refine (congrArg (fun done => (done.1, logging bare.2.2 ++ [.handle connection bare.1] ++
      [.respond connection bare.1] ++ done.2)) rest).trans ?_
    rw [List.append_nil]
    rfl

end Collector

end Telemetry
