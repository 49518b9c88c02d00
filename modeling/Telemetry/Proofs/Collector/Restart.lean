import Telemetry.Proofs.Collector.Embedding
import Telemetry.Proofs.Collector.Ending
import Telemetry.Proofs.Collector.Opening
import Telemetry.Proofs.Collector.Updates
import Telemetry.Proofs.Store.Snapshot

/-!
# What a restart keeps

A collector writes its snapshot once more when its storage is closed. What the disk holds then is the store that
the collector ends with, unless something of a connection was left: a connection that was not at its end, or a
write or a renaming whose connection had broken off and that had not come to its end. Such a stray may write over
the last snapshot, and nobody waits for it. If nothing was left, the snapshot that stays holds the store that the
collector has begun with, after all the updates that it has answered as done, and a collector that is restored
from it begins with that store. This does not depend on when snapshots are written before, on how the steps of
connections follow one another, on which of them break off in the middle of what, nor on when the collector is
told to shut down.
-/

namespace Telemetry

/-! ## The snapshot of a storage -/

namespace MemoryStorage

variable {storage after : MemoryStorage} {path : String}

/-- The snapshot is kept at a path where a file can be written. -/
structure Keeps (storage : MemoryStorage) (path : String) : Prop where
  file : storage.file.map SnapshotFile.path = some path
  takes : storage.disk.Takes path

theorem Keeps.exists_file (keeps : storage.Keeps path) :
    ∃ everyUpdate, storage.file = some ⟨path, everyUpdate⟩ := by
  obtain ⟨⟨_, everyUpdate⟩, kept, rfl⟩ := Option.map_eq_some_iff.1 keeps.file
  exact ⟨everyUpdate, kept⟩

/-- Where no snapshot is kept, updates leave the disk alone. -/
theorem Applies.disk_eq {updates : List (String × Value)} (applies : storage.Applies updates after)
    (unkept : storage.file = none) : after.disk = storage.disk := by
  obtain ⟨next, _, rfl | ⟨_, rfl⟩⟩ := applies
  · rw [settle, afterUpdate_world]
    simp only [unkept]
  · rfl

end MemoryStorage

namespace Collector

variable {collector next : Collector} {events : List CollectorEvent} {effects done : List CollectorEffect}
  {given now : List (Nat × Request)} {ready : List (Nat × Response)} {connection number : Nat} {gate : Gate}
  {path : String} {initial : Store} {storage : MemoryStorage}

/-! ## The store and the disk -/

/-- The updates of requests that are answered so. -/
def made (gate : Gate) (given : List (Nat × Request)) (ready : List (Nat × Response)) :
    List (String × Value) :=
  gate.accepted (given.map Prod.snd) (ready.map Prod.snd)

/-- A collector over memory holds the store that it has begun with after all accepted updates. -/
structure Holds (gate : Gate) (path : String) (initial : Store) (given : List (Nat × Request))
    (ready : List (Nat × Response)) (collector : Collector) (storage : MemoryStorage) : Prop where
  sameGate : collector.gate = gate
  inMemory : collector.storage = .memory storage
  keeps : storage.Keeps path
  counts : given.map Prod.fst = ready.map Prod.fst
  applied : initial.applyAll (made gate given ready) = .ok storage.store

/-- When the storage is closed with nothing left, the last snapshot comes to the disk and stays there. -/
def Sealed (path : String) (collector : Collector) (storage : MemoryStorage) : Prop :=
  match collector.stage with
  | .closing _ => collector.connections = [] ∧ collector.strays = [] ∧
    ∀ phase, collector.savers.lookup ownNumber = some phase →
      phase.LeadsTo storage.store.snapshotBytes storage.disk path
  | .ended _ => collector.connections = [] ∧ collector.strays = [] ∧
    storage.disk.read path = .ok storage.store.snapshotBytes
  | _ => True

theorem sealed_of_isLast_eq_false (notLast : collector.stage.isLast = false) : Sealed path collector storage := by
  unfold Sealed
  split
  · next isClosing =>
    rw [isClosing] at notLast
    cases notLast
  · next isEnded =>
    rw [isEnded] at notLast
    cases notLast
  · exact trivial

/-- Once the last snapshot has been begun with nothing left, nobody is there but the storage itself. -/
theorem Sealed.empty (isSealed : Sealed path collector storage) :
    collector.stage.isLast = false ∨ collector.connections = [] ∧ collector.strays = [] := by
  unfold Sealed at isSealed
  split at isSealed
  · exact .inr ⟨isSealed.1, isSealed.2.1⟩
  · exact .inr ⟨isSealed.1, isSealed.2.1⟩
  · next notClosing notEnded =>
    refine .inl ?_
    cases stage : collector.stage with
    | closing failure => exact absurd stage (notClosing failure)
    | ended failure => exact absurd stage (notEnded failure)
    | _ => rfl

theorem Holds.file?_eq (holds : Holds gate path initial given ready collector storage) :
    ∃ everyUpdate, collector.storage.file? = some ⟨path, everyUpdate⟩ := by
  obtain ⟨everyUpdate, kept⟩ := holds.keeps.exists_file
  rw [holds.inMemory]
  exact ⟨everyUpdate, kept⟩

/-- Nothing is answered, and the store is the same. -/
theorem Holds.keep (holds : Holds gate path initial given ready collector storage)
    (disk : Disk) (inMemory : next.storage = .memory { storage with disk })
    (sameGate : next.gate = collector.gate) (takes : disk.Takes path) :
    Holds gate path initial given ready next { storage with disk } where
  sameGate := sameGate.trans holds.sameGate
  inMemory := inMemory
  keeps := ⟨holds.keeps.file, takes⟩
  counts := holds.counts
  applied := holds.applied

/-- A request takes effect. -/
theorem Holds.handle (holds : Holds gate path initial given ready collector storage) {request : Request}
    {response : Response} {reached : Storage} {lines : List LogLine}
    (answered : collector.gate.handle Storage.backend request (collector.storage.withFile none) =
      (response, reached, lines)) (connection : Nat) :
    ∃ after, ∀ next : Collector, next.gate = collector.gate →
      next.storage = reached.withFile collector.storage.file? →
        Holds gate path initial (given ++ [(connection, request)]) (ready ++ [(connection, response)]) next
          after := by
  obtain rfl := holds.sameGate
  have unkept : collector.storage.withFile none = .memory { storage with file := none } := by
    rw [holds.inMemory]
    rfl
  rw [unkept, Gate.handle_embed Storage.backend_lifts] at answered
  simp only [Prod.mk.injEq] at answered
  obtain ⟨rfl, rfl, _⟩ := answered
  have applies := collector.gate.applies_handle request { storage with file := none }
  refine ⟨_, fun next sameGate inMemory => ⟨sameGate, inMemory, ⟨?_, ?_⟩, ?_, ?_⟩⟩
  · rw [holds.inMemory]
    exact holds.keeps.file
  · rw [applies.disk_eq rfl]
    exact holds.keeps.takes
  · rw [List.map_append, List.map_append, holds.counts]
    rfl
  · have sameLength : (given.map Prod.snd).length = (ready.map Prod.snd).length := by
      have lengths := congrArg List.length holds.counts
      simpa only [List.length_map] using lengths
    rw [made, List.map_append, List.map_append, Gate.accepted, List.zip_append sameLength, List.flatMap_append,
      Store.applyAll_append]
    refine (congrArg (Except.bind · _) holds.applied).trans ?_
    exact (congrArg storage.store.applyAll (List.append_nil _)).trans applies.applyAll

/-! ## Steps -/

/-- How a collector over memory stands after a run. -/
structure Stands (gate : Gate) (path : String) (initial : Store) (events : List CollectorEvent)
    (done : List CollectorEffect) (collector : Collector) (storage : MemoryStorage) : Prop where
  orderly : Orderly collector
  answers : Answers (handled done) (answered done) collector
  holds : Holds gate path initial (asked events) (handled done) collector storage
  isSealed : left done = [] → Sealed path collector storage

/-- Who saves when the storage is closed with nothing left is the storage itself. -/
theorem eq_ownNumber_of_isLast (orderly : Orderly collector) (isSealed : Sealed path collector storage)
    (isLast : collector.stage.isLast = true) {saver : Nat} {phase : SavingPhase}
    (found : collector.savers.lookup saver = some phase) : saver = ownNumber := by
  by_contra notOwn
  have isOpen := orderly.saver_mem (found ▸ rfl) notOwn
  rcases isSealed.empty with notLast | ⟨closed, _⟩
  · cases isLast.symm.trans notLast
  · rw [closed] at isOpen
    cases isOpen

/-- Once the last snapshot has been begun with nothing left, no connection and no stray does anything. -/
theorem Sealed.isLast_eq_false (isSealed : Sealed path collector storage)
    (present : collector.connections ≠ [] ∨ collector.strays ≠ []) : collector.stage.isLast = false := by
  rcases isSealed.empty with notLast | ⟨closed, gone⟩
  · exact notLast
  · rcases present with isOpen | isThere
    · exact absurd closed isOpen
    · exact absurd gone isThere

theorem Holds.goOn (holds : Holds gate path initial given ready collector storage) {saver : Nat}
    {saving saved : Saving} {phase : SavingPhase} (orderly : Orderly collector)
    (saves : collector.saving? = some saving) (found : saving.phase? saver = some phase)
    (goesOn : saving.GoesOn saver phase saved) :
    ∃ after, Holds gate path initial given ready (collector.afterSaving saved) after ∧
      (Sealed path collector storage → Sealed path (collector.afterSaving saved) after) := by
  obtain ⟨everyUpdate, kept⟩ := holds.keeps.exists_file
  rw [saving?_eq holds.inMemory kept] at saves
  cases saves
  have inMemory : (collector.afterSaving saved).storage = .memory { storage with disk := saved.disk } := by
    rw [afterSaving, holds.inMemory]
    rfl
  have holdsAfter : Holds gate path initial given ready (collector.afterSaving saved)
      { storage with disk := saved.disk } :=
    holds.keep saved.disk inMemory rfl (goesOn.takes holds.keeps.takes)
  refine ⟨_, holdsAfter, fun isSealed => ?_⟩
  by_cases isLast : collector.stage.isLast = true
  · obtain rfl := eq_ownNumber_of_isLast orderly isSealed isLast found
    unfold Sealed at isSealed ⊢
    cases stage : collector.stage with
    | closing failure =>
      rw [stage] at isSealed
      rw [afterSaving, stage]
      obtain ⟨closed, gone, leads⟩ := isSealed
      exact ⟨closed, gone, fun after reached => goesOn.leadsTo holds.keeps.takes (leads phase found) reached⟩
    | ended failure => cases found.symm.trans (orderly.ended failure stage)
    | _ => simp [stage, CollectorStage.isLast] at isLast
  · exact sealed_of_isLast_eq_false (Bool.eq_false_iff.2 isLast)

/-- A snapshot has been written or has failed to be. -/
theorem Holds.returns (holds : Holds gate path initial given ready collector storage) {saver : Nat}
    {saving : Saving} {failure : Option IoError} (orderly : Orderly collector)
    (saves : collector.saving? = some saving) (found : saving.phase? saver = some (.released failure)) :
    let finished := (collector.afterFinish saving saver).afterSnapshot saver failure
    Holds gate path initial given ready finished.1 storage ∧
      (Sealed path collector storage → Sealed path finished.1 storage) := by
  obtain ⟨everyUpdate, kept⟩ := holds.keeps.exists_file
  rw [saving?_eq holds.inMemory kept] at saves
  cases saves
  let saving : Saving := ⟨storage.store, storage.disk, path, collector.writer, collector.savers⟩
  have inMemory : (collector.afterFinish saving saver).storage = .memory storage := by
    rw [afterFinish, afterSaving, holds.inMemory]
    rfl
  dsimp only
  by_cases own : saver = ownNumber
  · subst own
    by_cases isClosing : ∃ cause, collector.stage = .closing cause
    · obtain ⟨cause, closing⟩ := isClosing
      rw [afterSnapshot_last (collector.afterFinish _ _) closing]
      refine ⟨holds.keep storage.disk inMemory rfl holds.keeps.takes, fun isSealed => ?_⟩
      rw [Sealed, closing] at isSealed
      obtain ⟨closed, gone, leads⟩ := isSealed
      obtain ⟨_, holdsSnapshot⟩ := leads _ found
      exact ⟨closed, gone, holdsSnapshot⟩
    · have notClosing : ∀ cause, collector.stage ≠ .closing cause := fun cause closing =>
        isClosing ⟨cause, closing⟩
      rw [afterSnapshot_own (collector.afterFinish _ _) notClosing]
      refine ⟨holds.keep storage.disk inMemory rfl holds.keeps.takes, fun isSealed => ?_⟩
      apply sealed_of_isLast_eq_false
      cases stage : collector.stage with
      | closing cause => exact absurd stage (notClosing cause)
      | ended cause => cases found.symm.trans (orderly.ended cause stage)
      | _ => simp [afterFinish, afterSaving, stage, CollectorStage.isLast]
  · rw [afterSnapshot_of_ne own]
    refine ⟨holds.keep storage.disk inMemory rfl holds.keeps.takes, fun isSealed => ?_⟩
    have isOpen := orderly.saver_mem (Option.isSome_of_eq_some found) own
    exact sealed_of_isLast_eq_false (isSealed.isLast_eq_false (.inl (List.ne_nil_of_mem isOpen)))

theorem Holds.change (holds : Holds gate path initial given ready collector storage) (orderly : Orderly collector)
    (change : collector.Change now next effects) :
    ∃ after, Holds gate path initial (given ++ now) (ready ++ handled effects) next after ∧
      (left effects = [] → Sealed path collector storage → Sealed path next after) := by
  have silent {after : MemoryStorage} (isSilent : now = [] ∧ handled effects = [])
      (holdsAfter : Holds gate path initial given ready next after)
      (isSealed : left effects = [] → Sealed path collector storage → Sealed path next after) :
      ∃ after, Holds gate path initial (given ++ now) (ready ++ handled effects) next after ∧
        (left effects = [] → Sealed path collector storage → Sealed path next after) := by
    rw [isSilent.1, isSilent.2, List.append_nil, List.append_nil]
    exact ⟨after, holdsAfter, isSealed⟩
  have takes := holds.keeps.takes
  cases change with
  | opens serving =>
    have notLast : collector.stage.isLast = false := by rw [serving]; rfl
    exact silent ⟨rfl, rfl⟩ (holds.keep storage.disk holds.inMemory rfl takes) fun _ _ =>
      sealed_of_isLast_eq_false notLast
  | advances stage lines before after =>
    exact silent ⟨rfl, handled_logging _⟩ (holds.keep storage.disk holds.inMemory rfl takes) fun _ _ =>
      sealed_of_isLast_eq_false after
  | handles connection request idle =>
    have isOpen := List.ne_nil_of_mem (orderly.of_isIdle idle).1
    obtain ⟨response, reached, lines, answered, next⟩ := collector.handle_cases connection request
    obtain ⟨after, holdsAfter⟩ := holds.handle answered connection
    rcases next with same | same
    · rw [same]
      refine ⟨after, ?_, fun _ isSealed => sealed_of_isLast_eq_false (isSealed.isLast_eq_false (.inl isOpen))⟩
      rw [handled_append, handled_append, handled_logging]
      exact holdsAfter _ rfl rfl
    · rw [same]
      refine ⟨after, ?_, fun _ isSealed => sealed_of_isLast_eq_false (isSealed.isLast_eq_false (.inl isOpen))⟩
      rw [handled_append, handled_logging]
      exact holdsAfter _ rfl rfl
  | savesOn saver saves found unfinished goesOn =>
    obtain ⟨after, holdsAfter, isSealed⟩ := holds.goOn orderly saves found goesOn
    exact silent ⟨rfl, rfl⟩ holdsAfter fun _ => isSealed
  | returns saver saves found =>
    obtain ⟨holdsAfter, isSealed⟩ := holds.returns orderly saves found
    exact silent ⟨rfl, handled_afterSnapshot _ _ _⟩ holdsAfter fun _ => isSealed
  | breaksOff connection lines isOpen =>
    refine silent ⟨rfl, handled_logging _⟩ (holds.keep storage.disk holds.inMemory rfl takes)
      fun _ isSealed => ?_
    exact sealed_of_isLast_eq_false (isSealed.isLast_eq_false (.inl (List.ne_nil_of_mem isOpen)))
  | strays disk strays present takesAgain =>
    obtain ⟨everyUpdate, kept⟩ := holds.file?_eq
    have inMemory : collector.storage.withDisk disk = .memory { storage with disk } := by
      rw [holds.inMemory]
      rfl
    have takesAfter : disk.Takes path := by
      apply takesAgain path
      · rw [kept]
        rfl
      · rw [holds.inMemory]
        exact takes
    refine silent ⟨rfl, rfl⟩ (holds.keep disk inMemory rfl takesAfter) fun _ isSealed => ?_
    exact sealed_of_isLast_eq_false (isSealed.isLast_eq_false (.inr present))
  | flushes due =>
    exact silent ⟨rfl, rfl⟩ (holds.keep storage.disk holds.inMemory rfl takes) fun _ _ =>
      sealed_of_isLast_eq_false (isLast_eq_false_of_mayFlush due).1
  | closes failure stopped free =>
    obtain ⟨everyUpdate, kept⟩ := holds.file?_eq
    have same : collector.closeStorage failure =
        ({ collector with stage := .closing failure }.beginSaving ownNumber,
          (collector.connections ++ collector.strays.map Prod.fst).map .leave) := by
      rw [closeStorage, kept]
    rw [same] at silent ⊢
    refine silent ⟨rfl, handled_leave _⟩ (holds.keep storage.disk holds.inMemory rfl takes)
      fun leavesNothing _ => ?_
    rw [left_leave] at leavesNothing
    obtain ⟨closed, gone⟩ := List.append_eq_nil_iff.1 leavesNothing
    refine ⟨closed, List.map_eq_nil_iff.1 gone, fun phase found => ?_⟩
    rw [lookup_beginSaving, if_pos rfl] at found
    cases found
    trivial

theorem Stands.step (stands : Stands gate path initial events done collector storage) {event : CollectorEvent}
    (stepped : collector.step event = some (next, effects)) :
    ∃ after, Stands gate path initial (events ++ [event]) (done ++ effects) next after := by
  have change := step_change stepped
  obtain ⟨after, holds, isSealed⟩ := stands.holds.change stands.orderly change
  refine ⟨after, stands.orderly.change change, ?_, ?_, fun leavesNothing => ?_⟩
  · rw [handled_append, answered_append]
    exact stands.answers.change stands.orderly change
  · rw [asked_append, handled_append]
    exact holds
  · rw [left_append] at leavesNothing
    obtain ⟨leftNothing, leavesNone⟩ := List.append_eq_nil_iff.1 leavesNothing
    exact isSealed leavesNone (stands.isSealed leftNothing)

theorem exists_stands_of_run (ran : Run step collector events effects next)
    (stands : Stands gate path initial [] [] collector storage) :
    ∃ after, Stands gate path initial events effects next after := by
  refine ran.preserves (fun before done reached =>
    ∃ after, Stands gate path initial before done reached after) ⟨storage, stands⟩ ?_
  rintro before done current event next effects ⟨storage, stands⟩ stepped
  exact stands.step stepped

/-! ## Restarts -/

variable {listen : String → Nat → Except IoError Unit} {settings : CollectorSettings} {disk : Disk}

/-- A collector that has started stands at the beginning. -/
theorem exists_stands_start (canStart : CanStart listen settings disk path)
    (opens : Store.opening? settings.restore disk path = some initial) (takes : disk.Takes path)
    (database : Database) :
    ∃ collector storage, (start listen settings disk database).result = .ok collector ∧
      Unbroken collector ∧ Stands collector.gate path initial [] [] collector storage := by
  obtain ⟨gate, started⟩ := exists_start canStart opens database
  let storage : MemoryStorage := ⟨initial, some ⟨path, settings.storesEveryUpdate⟩, disk⟩
  have orderly : Orderly
      { gate, storage := .memory storage, shutdownTimeout := settings.shutdownTimeout } :=
    { exclusive := by simp [Saving.Exclusive]
      numbered := nofun
      waits := nofun
      saves := fun _ _ => Iff.rfl
      closing := nofun
      ended := nofun }
  refine ⟨_, storage, started, ⟨orderly, rfl, nofun⟩, orderly, ?_, ?_, fun _ => trivial⟩
  · exact ⟨nofun, fun _ => List.prefix_refl _, fun _ _ => rfl⟩
  · exact ⟨rfl, rfl, ⟨rfl, takes⟩, rfl, rfl⟩

/-- What is left may spoil the last snapshot. Here the write of the first connection goes on while the last
snapshot is written, and puts its older copy beside the snapshot before that gets its path: the update of the
second connection has been answered as done, the collector holds seven, and the snapshot says five. -/
theorem left_write_spoils_snapshot :
    let disk := Disk.empty
    let database : Database := ⟨Store.empty, true, [], [], []⟩
    let started := (start (fun _ _ => .ok ()) { storeInterval := 0 } disk database).result.toOption
    let five : Request := ⟨"POST", "/update/counter/hits/5", [], []⟩
    let two : Request := ⟨"POST", "/update/counter/hits/2", [], []⟩
    let older := Store.snapshotBytes ⟨Roster.empty, Roster.ofList [("hits", ⟨5, by decide, by decide⟩)]⟩
    let events : List CollectorEvent :=
      [.accept none, .accept none, .request 1 five, .goOn 1, .goOn 1, .hangUp 1, .request 2 two, .goOn 2, .goOn 2,
        .goOn 2, .goOn 2, .goOn 2, .goOn 2, .shutdown, .close 2 none, .drained, .closeStorage, .goOn 0, .goOn 0,
        .goOn 0, .strayWrite 1 false older, .goOn 0, .goOn 0, .goOn 0]
    let done := started.bind fun collector => collector.run events
    (done.map fun (ended, effects) => (ended.stage, left effects)) = some (.ended none, [1]) ∧
      (done.map fun (_, effects) => (answered effects).map fun (connection, response) =>
        (connection, response.status)) = some [(2, 200)] ∧
      (done.map fun (ended, _) => ended.saving?.map fun saving => (saving.store.total "hits").toInt) =
        some (some 7) ∧
      (done.map fun (ended, _) => ((ended.storage.disk.read "metrics_data").toOption.bind
        Store.ofSnapshot?).map fun store => (store.total "hits").toInt) = some (some 5) := by
  decide +kernel

end Collector

end Telemetry
