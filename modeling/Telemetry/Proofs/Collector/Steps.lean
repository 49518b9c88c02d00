import Telemetry.Collector.Basic
import Telemetry.Proofs.Run
import Telemetry.Proofs.Store.Progress

/-!
# Steps of a collector

What a step may do, whatever the event is that makes it happen: `Change` lists it once, with all that is known
about the state in which it happens. From that it follows how those who save, the responses that are held back
and the open connections belong together in every state that a collector can reach.
-/

namespace Telemetry

/-- The request that an event is, with its connection. -/
def CollectorEvent.asked? : CollectorEvent → Option (Nat × Request)
  | .request connection asked => some (connection, asked)
  | _ => none

namespace CollectorEffect

/-- The request that has taken effect, as its connection and its response to be. -/
def handled? : CollectorEffect → Option (Nat × Response)
  | handle connection response => some (connection, response)
  | _ => none

/-- The response that is sent, with its connection. -/
def answered? : CollectorEffect → Option (Nat × Response)
  | respond connection response => some (connection, response)
  | _ => none

/-- What is not at its end when the storage is closed. -/
def left? : CollectorEffect → Option Nat
  | leave connection => some connection
  | _ => none

end CollectorEffect

namespace Collector

variable {collector next : Collector} {event : CollectorEvent} {effects : List CollectorEffect}
  {connection saver number : Nat} {file : Option SnapshotFile}

/-! ## What happens and what is done -/

/-- The requests among events, in the order in which they take effect. -/
def asked (events : List CollectorEvent) : List (Nat × Request) :=
  events.filterMap CollectorEvent.asked?

/-- The responses of the requests that have taken effect, in that order. -/
def handled (effects : List CollectorEffect) : List (Nat × Response) :=
  effects.filterMap CollectorEffect.handled?

/-- The responses that are sent. -/
def answered (effects : List CollectorEffect) : List (Nat × Response) :=
  effects.filterMap CollectorEffect.answered?

/-- What was not at its end when the storage was closed. -/
def left (effects : List CollectorEffect) : List Nat :=
  effects.filterMap CollectorEffect.left?

@[simp]
theorem asked_append (before events : List CollectorEvent) :
    asked (before ++ events) = asked before ++ asked events :=
  List.filterMap_append

@[simp]
theorem handled_append (done effects : List CollectorEffect) :
    handled (done ++ effects) = handled done ++ handled effects :=
  List.filterMap_append

@[simp]
theorem answered_append (done effects : List CollectorEffect) :
    answered (done ++ effects) = answered done ++ answered effects :=
  List.filterMap_append

@[simp]
theorem left_append (done effects : List CollectorEffect) : left (done ++ effects) = left done ++ left effects :=
  List.filterMap_append

@[simp]
theorem handled_logging (lines : List LogLine) : handled (logging lines) = [] := by
  simp [handled, logging, CollectorEffect.handled?]

@[simp]
theorem answered_logging (lines : List LogLine) : answered (logging lines) = [] := by
  simp [answered, logging, CollectorEffect.answered?]

@[simp]
theorem left_logging (lines : List LogLine) : left (logging lines) = [] := by
  simp [left, logging, CollectorEffect.left?]

@[simp]
theorem handled_leave (numbers : List Nat) : handled (numbers.map .leave) = [] := by
  simp [handled, CollectorEffect.handled?]

@[simp]
theorem answered_leave (numbers : List Nat) : answered (numbers.map .leave) = [] := by
  simp [answered, CollectorEffect.answered?]

@[simp]
theorem left_leave (numbers : List Nat) : left (numbers.map .leave) = numbers := by
  rw [left, List.filterMap_map]
  exact List.filterMap_some

/-! ## Storages -/

@[simp]
theorem withDisk_disk (storage : Storage) : storage.withDisk storage.disk = storage := by
  cases storage <;> rfl

@[simp]
theorem file?_withDisk (storage : Storage) (disk : Disk) : (storage.withDisk disk).file? = storage.file? := by
  cases storage <;> rfl

theorem exists_of_saving? {saving : Saving} (saves : collector.saving? = some saving) :
    ∃ storage file, collector.storage = .memory storage ∧ storage.file = some file ∧
      saving = ⟨storage.store, storage.disk, file.path, collector.writer, collector.savers⟩ := by
  unfold saving? at saves
  split at saves
  · next store file disk inMemory =>
    cases saves
    exact ⟨⟨store, some file, disk⟩, file, inMemory, rfl, rfl⟩
  · cases saves

theorem saving?_eq {storage : MemoryStorage} {file : SnapshotFile} (inMemory : collector.storage = .memory storage)
    (kept : storage.file = some file) :
    collector.saving? = some ⟨storage.store, storage.disk, file.path, collector.writer, collector.savers⟩ := by
  obtain ⟨store, _, disk⟩ := storage
  cases kept
  rw [saving?, inMemory]

/-! ## Snapshots -/

theorem step_goOn {saving saved : Saving} {phase : SavingPhase} {savingEffects : List SavingEffect}
    (saves : collector.saving? = some saving) (found : saving.phase? saver = some phase)
    (stepped : saving.step (phase.next saver) = some (saved, savingEffects)) :
    collector.step (.goOn saver) = some ((collector.afterSaving saved).afterPhase saver phase) := by
  rw [step, saveOn, saves, Option.bind_some, found, Option.bind_some, stepped]
  rfl

theorem exists_of_saveOn (stepped : collector.saveOn saver = some (next, effects)) :
    ∃ saving phase saved, collector.saving? = some saving ∧ saving.phase? saver = some phase ∧
      saving.GoesOn saver phase saved ∧ (collector.afterSaving saved).afterPhase saver phase = (next, effects) := by
  unfold saveOn at stepped
  obtain ⟨saving, saves, stepped⟩ := Option.bind_eq_some_iff.1 stepped
  obtain ⟨phase, found, stepped⟩ := Option.bind_eq_some_iff.1 stepped
  obtain ⟨⟨saved, _⟩, savingStepped, same⟩ := Option.map_eq_some_iff.1 stepped
  exact ⟨saving, phase, saved, saves, found, Saving.goesOn_of_step found savingStepped, same⟩

theorem left_afterPhase (collector : Collector) (saver : Nat) (phase : SavingPhase) :
    left (collector.afterPhase saver phase).2 = [] := by
  unfold afterPhase afterSnapshot
  split
  · split
    · split <;> exact left_logging _
    · rw [left_append, left_logging]
      cases collector.answers.lookup saver <;> rfl
  · rfl

/-- What a snapshot that comes to its end leaves as it was. -/
theorem afterPhase_keeps (collector : Collector) (saver : Nat) (phase : SavingPhase) :
    let next := (collector.afterPhase saver phase).1
    next.storage = collector.storage ∧ next.savers = collector.savers ∧
      next.connections = collector.connections ∧ next.strays = collector.strays ∧
      (next.stage = collector.stage ∨
        ∃ cause, collector.stage = .closing cause ∧ next.stage = .ended cause) := by
  unfold afterPhase afterSnapshot
  dsimp only
  split
  · split
    · split
      · next cause closing => exact ⟨rfl, rfl, rfl, rfl, .inr ⟨cause, closing, rfl⟩⟩
      · exact ⟨rfl, rfl, rfl, rfl, .inl rfl⟩
    · exact ⟨rfl, rfl, rfl, rfl, .inl rfl⟩
  · exact ⟨rfl, rfl, rfl, rfl, .inl rfl⟩

/-! ## Changes -/

/-- The collector without one whose snapshot has been written or has failed to be. -/
def afterFinish (collector : Collector) (saving : Saving) (saver : Nat) : Collector :=
  collector.afterSaving { saving with clients := saving.others saver }

/-- What a step may do, where a request comes in it or none, and what the effects are. -/
inductive Change (collector : Collector) : List (Nat × Request) → Collector → List CollectorEffect → Prop
  | opens (serving : collector.stage = .serving) : Change collector [] collector.opened []
  /-- The life of the collector comes further, up to where the storage is to be closed. -/
  | advances (stage : CollectorStage) (lines : List LogLine) (before : collector.stage.isLast = false)
    (after : stage.isLast = false) : Change collector [] { collector with stage } (logging lines)
  | handles (connection : Nat) (request : Request) (idle : collector.isIdle connection = true) :
    Change collector [(connection, request)] (collector.handle connection request).1
      (collector.handle connection request).2
  | savesOn (saver : Nat) {saving saved : Saving} {phase : SavingPhase}
    (saves : collector.saving? = some saving) (found : saving.phase? saver = some phase)
    (unfinished : ∀ failure, phase ≠ .released failure) (goesOn : saving.GoesOn saver phase saved) :
    Change collector [] (collector.afterSaving saved) []
  | returns (saver : Nat) {saving : Saving} {failure : Option IoError}
    (saves : collector.saving? = some saving) (found : saving.phase? saver = some (.released failure)) :
    Change collector [] ((collector.afterFinish saving saver).afterSnapshot saver failure).1
      ((collector.afterFinish saving saver).afterSnapshot saver failure).2
  | breaksOff (connection : Nat) (lines : List LogLine) (isOpen : connection ∈ collector.connections) :
    Change collector [] (collector.breakOff connection) (logging lines)
  /-- A stray does something to the disk or comes to its end. -/
  | strays (disk : Disk) (strays : List (Nat × Stray)) (present : collector.strays ≠ [])
    (takes : ∀ path, collector.storage.file?.map SnapshotFile.path = some path →
      collector.storage.disk.Takes path → disk.Takes path) :
    Change collector [] { collector with storage := collector.storage.withDisk disk, strays } []
  | flushes (due : collector.mayFlush = true) : Change collector [] (collector.beginSaving ownNumber) []
  | closes (failure : Option IoError) (stopped : collector.stage = .stopped failure)
    (free : collector.savers.lookup ownNumber = none) :
    Change collector [] (collector.closeStorage failure).1 (collector.closeStorage failure).2

/-- What strays do to the disk leaves room for the snapshot. -/
theorem exists_touch_eq (collector : Collector) (change : Disk → String → Except IoError Disk)
    (takes : ∀ disk path after, change disk path = .ok after → disk.Takes path → after.Takes path) :
    ∃ disk, collector.touch change = { collector with storage := collector.storage.withDisk disk } ∧
      ∀ path, collector.storage.file?.map SnapshotFile.path = some path →
        collector.storage.disk.Takes path → disk.Takes path := by
  have same : collector = { collector with storage := collector.storage.withDisk collector.storage.disk } := by
    rw [withDisk_disk]
  unfold touch
  split
  · exact ⟨_, same, fun _ _ => id⟩
  · next file kept =>
    split
    · exact ⟨_, same, fun _ _ => id⟩
    · next disk changed =>
      refine ⟨disk, rfl, fun path isPath => ?_⟩
      rw [kept] at isPath
      cases isPath
      exact takes _ _ _ changed

theorem step_change (stepped : collector.step event = some (next, effects)) :
    collector.Change (asked [event]) next effects := by
  unfold step at stepped
  cases event with
  | accept failure =>
    dsimp only at stepped
    obtain ⟨serving, accepting⟩ := Option.ite_none_right_eq_some.1 stepped
    have before : collector.stage.isLast = false := by rw [serving]; rfl
    cases failure with
    | none =>
      cases accepting
      exact .opens serving
    | some cause =>
      dsimp only at accepting
      split at accepting
      · cases accepting
        exact .advances collector.stage [] before before
      · cases accepting
        exact .advances _ [acceptFailedLine cause] before rfl
  | request connection request =>
    obtain ⟨idle, handling⟩ := Option.ite_none_right_eq_some.1 stepped
    have handles := Change.handles connection request idle
    rw [Option.some.inj handling] at handles
    exact handles
  | goOn saver =>
    obtain ⟨saving, phase, saved, saves, found, goesOn, same⟩ := exists_of_saveOn stepped
    unfold afterPhase at same
    split at same
    · cases goesOn
      have returns := Change.returns saver saves found
      rw [afterFinish, same] at returns
      exact returns
    · next unfinished =>
      cases same
      exact .savesOn saver saves found unfinished goesOn
  | close connection fault =>
    obtain ⟨idle, closing⟩ := Option.ite_none_right_eq_some.1 stepped
    cases closing
    obtain ⟨isOpen, _⟩ := (Bool.and_eq_true _ _).mp idle
    exact .breaksOff connection _ (List.contains_iff_mem.1 isOpen)
  | hangUp connection =>
    obtain ⟨busy, breaking⟩ := Option.ite_none_right_eq_some.1 stepped
    cases breaking
    obtain ⟨isOpen, _⟩ := (Bool.and_eq_true _ _).mp busy
    exact .breaksOff connection _ (List.contains_iff_mem.1 isOpen)
  | cutOff connection =>
    obtain ⟨told, breaking⟩ := Option.ite_none_right_eq_some.1 stepped
    cases breaking
    obtain ⟨_, isOpen⟩ := (Bool.and_eq_true _ _).mp told
    exact .breaksOff connection [] (List.contains_iff_mem.1 isOpen)
  | strayWrite connection inPlace content =>
    obtain ⟨present, writing⟩ := Option.ite_none_right_eq_some.1 stepped
    cases writing
    obtain ⟨disk, same, takes⟩ := collector.exists_touch_eq
      (fun disk path => disk.write (if inPlace then path else Disk.sibling path) content)
      fun _ _ _ wrote takes => takes.of_write (ite_eq_or_eq _ _ _) wrote
    rw [same]
    exact .strays disk collector.strays (List.ne_nil_of_mem present) takes
  | strayEnd connection =>
    obtain ⟨present, ending⟩ := Option.ite_none_right_eq_some.1 stepped
    cases ending
    have ends := Change.strays collector.storage.disk (collector.strays.erase (connection, .writing))
      (List.ne_nil_of_mem present) fun _ _ => id
    rw [withDisk_disk] at ends
    exact ends
  | strayRename connection =>
    obtain ⟨present, moving⟩ := Option.ite_none_right_eq_some.1 stepped
    cases moving
    obtain ⟨disk, same, takes⟩ := collector.exists_touch_eq
      (fun disk path => disk.rename (Disk.sibling path) path)
      fun _ _ _ moved takes => takes.of_rename_sibling moved
    rw [same]
    exact .strays disk _ (List.ne_nil_of_mem present) takes
  | flush =>
    obtain ⟨due, flushing⟩ := Option.ite_none_right_eq_some.1 stepped
    cases flushing
    exact .flushes due
  | shutdown =>
    obtain ⟨serving, draining⟩ := Option.ite_none_right_eq_some.1 stepped
    cases draining
    exact .advances .draining [] (by rw [serving]; rfl) rfl
  | drained =>
    obtain ⟨⟨draining, _⟩, stopping⟩ := Option.ite_none_right_eq_some.1 stepped
    cases stopping
    exact .advances (.stopped none) [] (by rw [draining]; rfl) rfl
  | timeUp =>
    obtain ⟨⟨draining, _⟩, stopping⟩ := Option.ite_none_right_eq_some.1 stepped
    cases stopping
    exact .advances (.stopped none) [collector.timeUpLine] (by rw [draining]; rfl) rfl
  | closeStorage =>
    dsimp only at stepped
    split at stepped
    · next failure stopped free =>
      have closes := Change.closes failure stopped free
      rw [Option.some.inj stepped] at closes
      exact closes
    · cases stepped

/-- A request is answered at once, or its connection waits for the snapshot. -/
theorem handle_cases (collector : Collector) (connection : Nat) (request : Request) :
    ∃ response storage lines,
      collector.gate.handle Storage.backend request (collector.storage.withFile none) =
        (response, storage, lines) ∧
      let next := { collector with storage := storage.withFile collector.storage.file? }
      collector.handle connection request =
          (next, logging lines ++ [.handle connection response] ++ [.respond connection response]) ∨
        collector.handle connection request =
          ({ next with answers := (connection, response) :: next.answers }.beginSaving connection,
            logging lines ++ [.handle connection response]) := by
  refine ⟨_, _, _, rfl, ?_⟩
  unfold handle
  dsimp only
  split
  · exact .inr rfl
  · exact .inl rfl

/-! ## Who belongs to whom -/

/-- How those who save, the responses that are held back and the open connections belong together. -/
structure Orderly (collector : Collector) : Prop where
  exclusive : Saving.Exclusive collector.writer collector.savers
  numbered : ∀ connection ∈ collector.connections, ownNumber < connection ∧ connection ≤ collector.accepted
  waits : ∀ connection, (collector.answers.lookup connection).isSome → connection ∈ collector.connections
  saves : ∀ connection, connection ≠ ownNumber →
    ((collector.savers.lookup connection).isSome ↔ (collector.answers.lookup connection).isSome)
  closing : ∀ failure, collector.stage = .closing failure → (collector.savers.lookup ownNumber).isSome
  ended : ∀ failure, collector.stage = .ended failure → collector.savers.lookup ownNumber = none

/-- Whoever saves is the storage itself or an open connection. -/
theorem Orderly.saver_mem (orderly : Orderly collector) (saves : (collector.savers.lookup saver).isSome)
    (notOwn : saver ≠ ownNumber) : saver ∈ collector.connections :=
  orderly.waits saver ((orderly.saves saver notOwn).1 saves)

theorem Orderly.ne_ownNumber (orderly : Orderly collector) (isOpen : connection ∈ collector.connections) :
    connection ≠ ownNumber :=
  (orderly.numbered connection isOpen).1.ne'

/-- One more has the snapshot written. -/
theorem exclusive_begin (exclusive : Saving.Exclusive collector.writer collector.savers)
    (free : collector.savers.lookup saver = none) :
    Saving.Exclusive collector.writer ((saver, .waiting) :: collector.savers) := by
  refine exclusive.change saver (fun _ _ => Iff.rfl) (fun other different => ?_) ?_
  · rw [lookup_cons_ite, if_neg different]
  · rw [exclusive saver, free, List.lookup_cons_self]
    simp [SavingPhase.isInside]

theorem lookup_beginSaving (collector : Collector) (saver other : Nat) :
    (collector.beginSaving saver).savers.lookup other =
      if other = saver then some .waiting else collector.savers.lookup other := by
  rw [beginSaving, lookup_cons_ite]

theorem Orderly.opened (orderly : Orderly collector) : Orderly collector.opened where
  exclusive := orderly.exclusive
  numbered connection isOpen := by
    rcases List.mem_append.1 isOpen with before | isNew
    · obtain ⟨positive, most⟩ := orderly.numbered connection before
      exact ⟨positive, Nat.le_succ_of_le most⟩
    · rw [List.mem_singleton.1 isNew]
      exact ⟨Nat.succ_pos _, Nat.le_refl _⟩
  waits connection held := List.mem_append_left _ (orderly.waits connection held)
  saves := orderly.saves
  closing := orderly.closing
  ended := orderly.ended

theorem Orderly.advance (orderly : Orderly collector) {stage : CollectorStage} (after : stage.isLast = false) :
    Orderly { collector with stage } where
  exclusive := orderly.exclusive
  numbered := orderly.numbered
  waits := orderly.waits
  saves := orderly.saves
  closing failure isClosing := by
    dsimp only at isClosing
    subst isClosing
    cases after
  ended failure isEnded := by
    dsimp only at isEnded
    subst isEnded
    cases after

/-- Nothing belongs to a storage. -/
theorem Orderly.withStorage (orderly : Orderly collector) (storage : Storage) (strays : List (Nat × Stray)) :
    Orderly { collector with storage, strays } where
  exclusive := orderly.exclusive
  numbered := orderly.numbered
  waits := orderly.waits
  saves := orderly.saves
  closing := orderly.closing
  ended := orderly.ended

/-- A connection that waits for a request does not save. -/
theorem Orderly.of_isIdle (orderly : Orderly collector) (idle : collector.isIdle connection = true) :
    connection ∈ collector.connections ∧ collector.answers.lookup connection = none ∧
      collector.savers.lookup connection = none := by
  obtain ⟨contained, unheld⟩ := (Bool.and_eq_true _ _).mp idle
  have isOpen := List.contains_iff_mem.1 contained
  have none := Option.isNone_iff_eq_none.1 unheld
  refine ⟨isOpen, none, ?_⟩
  rw [← Option.not_isSome_iff_eq_none, orderly.saves connection (orderly.ne_ownNumber isOpen), none]
  exact Bool.false_ne_true

/-- A connection waits for the snapshot. -/
theorem Orderly.hold (orderly : Orderly collector) (idle : collector.isIdle connection = true)
    (response : Response) :
    Orderly ({ collector with answers := (connection, response) :: collector.answers }.beginSaving
      connection) := by
  obtain ⟨isOpen, _, free⟩ := orderly.of_isIdle idle
  have notOwn := orderly.ne_ownNumber isOpen
  exact {
    exclusive := exclusive_begin orderly.exclusive free
    numbered := orderly.numbered
    waits := by
      intro other held
      rw [beginSaving, lookup_cons_ite] at held
      split at held
      · next same => exact same ▸ isOpen
      · exact orderly.waits other held
    saves := by
      intro other otherNotOwn
      rw [lookup_beginSaving, beginSaving, lookup_cons_ite]
      split
      · exact Iff.rfl
      · exact orderly.saves other otherNotOwn
    closing := by
      intro failure isClosing
      rw [lookup_beginSaving, if_neg notOwn.symm]
      exact orderly.closing failure isClosing
    ended := by
      intro failure isEnded
      rw [lookup_beginSaving, if_neg notOwn.symm]
      exact orderly.ended failure isEnded }

/-- The storage has its snapshot written. -/
theorem Orderly.beginOwn (orderly : Orderly collector) (free : collector.savers.lookup ownNumber = none)
    {stage : CollectorStage} (notEnded : ∀ failure, stage ≠ .ended failure) :
    Orderly ({ collector with stage }.beginSaving ownNumber) where
  exclusive := exclusive_begin orderly.exclusive free
  numbered := orderly.numbered
  waits := orderly.waits
  saves connection notOwn := by
    rw [lookup_beginSaving, if_neg notOwn]
    exact orderly.saves connection notOwn
  closing failure _ := by
    rw [lookup_beginSaving, if_pos rfl]
    rfl
  ended failure isEnded := absurd isEnded (notEnded failure)

theorem Orderly.goOn (orderly : Orderly collector) {saving saved : Saving} {phase : SavingPhase}
    (saves : collector.saving? = some saving) (found : saving.phase? saver = some phase)
    (unfinished : ∀ failure, phase ≠ .released failure) (goesOn : saving.GoesOn saver phase saved) :
    Orderly (collector.afterSaving saved) := by
  obtain ⟨storage, file, _, _, rfl⟩ := exists_of_saving? saves
  have sameSavers (other : Nat) :
      (saved.clients.lookup other).isSome = (collector.savers.lookup other).isSome := by
    by_cases same : other = saver
    · subst same
      rcases goesOn.clients_eq with ⟨_, failure, finished⟩ | ⟨after, moved, _⟩
      · exact absurd finished (unfinished failure)
      · rw [moved, List.lookup_cons_self]
        exact (congrArg Option.isSome found).symm
    · rw [goesOn.lookup_of_ne same]
  exact {
    exclusive := goesOn.exclusive found orderly.exclusive
    numbered := orderly.numbered
    waits := orderly.waits
    saves := by
      intro connection notOwn
      rw [afterSaving, sameSavers connection]
      exact orderly.saves connection notOwn
    closing := by
      intro failure isClosing
      rw [afterSaving, sameSavers ownNumber]
      exact orderly.closing failure isClosing
    ended := by
      intro failure isEnded
      rw [← Option.not_isSome_iff_eq_none, afterSaving, sameSavers ownNumber, Option.not_isSome_iff_eq_none]
      exact orderly.ended failure isEnded }

theorem afterSnapshot_last (collector : Collector) {cause : Option IoError}
    (closing : collector.stage = .closing cause) (failure : Option IoError) :
    collector.afterSnapshot ownNumber failure = ({ collector with stage := .ended cause },
      logging (collector.savingLines "Failed to write final snapshot" failure)) := by
  rw [afterSnapshot, if_pos rfl, closing]

theorem afterSnapshot_own (collector : Collector) (notClosing : ∀ cause, collector.stage ≠ .closing cause)
    (failure : Option IoError) :
    collector.afterSnapshot ownNumber failure =
      (collector, logging (collector.savingLines "Failed to write snapshot" failure)) := by
  rw [afterSnapshot, if_pos rfl]
  split
  · next cause closing => exact absurd closing (notClosing cause)
  · rfl

theorem afterSnapshot_of_ne (notOwn : saver ≠ ownNumber) (failure : Option IoError) :
    collector.afterSnapshot saver failure =
      ({ collector with answers := collector.answers.filter fun (other, _) => other != saver },
        logging (collector.savingLines "Failed to write snapshot" failure) ++
          ((collector.answers.lookup saver).map (.respond saver)).toList) := by
  rw [afterSnapshot, if_neg notOwn]

theorem Orderly.returns (orderly : Orderly collector) {saving : Saving} {failure : Option IoError}
    (saves : collector.saving? = some saving) (found : saving.phase? saver = some (.released failure)) :
    Orderly ((collector.afterFinish saving saver).afterSnapshot saver failure).1 := by
  obtain ⟨storage, file, _, _, isSaving⟩ := exists_of_saving? saves
  have exclusive : Saving.Exclusive saving.writer (saving.others saver) := by
    refine (Saving.GoesOn.finishes failure).exclusive found ?_
    rw [isSaving]
    exact orderly.exclusive
  have lookup_savers (other : Nat) : (saving.others saver).lookup other =
      if other = saver then none else collector.savers.lookup other := by
    rw [Saving.phase?_others, isSaving]
    rfl
  have without : (saving.others saver).lookup saver = none := by
    rw [lookup_savers, if_pos rfl]
  by_cases own : saver = ownNumber
  · subst own
    have saves (connection : Nat) (notOwn : connection ≠ ownNumber) :
        ((saving.others ownNumber).lookup connection).isSome ↔ (collector.answers.lookup connection).isSome := by
      rw [lookup_savers, if_neg notOwn]
      exact orderly.saves connection notOwn
    by_cases isClosing : ∃ cause, collector.stage = .closing cause
    · obtain ⟨cause, closing⟩ := isClosing
      rw [afterSnapshot_last (collector.afterFinish _ _) closing]
      have notClosing (failure : Option IoError) (same : CollectorStage.ended cause = .closing failure) :
          ((saving.others ownNumber).lookup ownNumber).isSome := by
        cases same
      exact ⟨exclusive, orderly.numbered, orderly.waits, saves, notClosing, fun _ _ => without⟩
    · have notClosing : ∀ cause, collector.stage ≠ .closing cause := fun cause closing =>
        isClosing ⟨cause, closing⟩
      rw [afterSnapshot_own (collector.afterFinish _ _) notClosing]
      exact ⟨exclusive, orderly.numbered, orderly.waits, saves,
        fun cause closing => absurd closing (notClosing cause), fun _ _ => without⟩
  · have sameOwn : (saving.others saver).lookup ownNumber = collector.savers.lookup ownNumber := by
      rw [lookup_savers, if_neg (Ne.symm own)]
    rw [afterSnapshot_of_ne own]
    exact {
      exclusive := exclusive
      numbered := orderly.numbered
      waits := by
        intro connection held
        rw [lookup_filter_ne] at held
        split at held
        · cases held
        · exact orderly.waits connection held
      saves := by
        intro connection notOwn
        show ((saving.others saver).lookup connection).isSome ↔ _
        rw [lookup_filter_ne, lookup_savers]
        split
        · exact Iff.rfl
        · exact orderly.saves connection notOwn
      closing := by
        intro cause closing
        exact (congrArg Option.isSome sameOwn).trans (orderly.closing cause closing)
      ended := fun cause ended => sameOwn.trans (orderly.ended cause ended) }

theorem Orderly.breakOff (orderly : Orderly collector) (isOpen : connection ∈ collector.connections) :
    Orderly (collector.breakOff connection) := by
  have notOwn := orderly.ne_ownNumber isOpen
  exact {
    exclusive := by
      refine orderly.exclusive.change connection (fun other different => ?_) (fun other different => ?_) ?_
      · rw [Collector.breakOff]
        by_cases writes : collector.writer = some connection
        · simp [writes, different.symm]
        · rw [if_neg writes]
      · rw [Collector.breakOff, lookup_filter_ne, if_neg different]
      · rw [Collector.breakOff, lookup_filter_ne, if_pos rfl]
        by_cases writes : collector.writer = some connection
        · simp [writes]
        · simp [writes]
    numbered := fun other stillOpen => orderly.numbered other (List.mem_filter.1 stillOpen).1
    waits := by
      intro other held
      rw [Collector.breakOff, lookup_filter_ne] at held
      split at held
      · cases held
      · next different =>
        exact List.mem_filter.2 ⟨orderly.waits other held, bne_iff_ne.2 different⟩
    saves := by
      intro other otherNotOwn
      rw [Collector.breakOff, lookup_filter_ne, lookup_filter_ne]
      split
      · exact Iff.rfl
      · exact orderly.saves other otherNotOwn
    closing := by
      intro failure isClosing
      rw [Collector.breakOff, lookup_filter_ne, if_neg notOwn.symm]
      exact orderly.closing failure isClosing
    ended := by
      intro failure isEnded
      rw [Collector.breakOff, lookup_filter_ne, if_neg notOwn.symm]
      exact orderly.ended failure isEnded }

theorem isLast_eq_false_of_mayFlush (due : collector.mayFlush = true) :
    collector.stage.isLast = false ∧ collector.savers.lookup ownNumber = none := by
  simp only [mayFlush, Bool.and_eq_true, Bool.not_eq_true', Option.isNone_iff_eq_none] at due
  exact ⟨due.1.1, due.2⟩

theorem Orderly.change (orderly : Orderly collector) {given : List (Nat × Request)}
    (change : collector.Change given next effects) : Orderly next := by
  cases change with
  | opens serving => exact orderly.opened
  | advances stage lines before after => exact orderly.advance after
  | handles connection request idle =>
    obtain ⟨response, storage, lines, _, same | same⟩ := collector.handle_cases connection request
    · rw [same]
      exact orderly.withStorage _ collector.strays
    · rw [same]
      have handles := orderly.withStorage (storage.withFile collector.storage.file?) collector.strays
      exact handles.hold idle response
  | savesOn saver saves found unfinished goesOn => exact orderly.goOn saves found unfinished goesOn
  | returns saver saves found => exact orderly.returns saves found
  | breaksOff connection lines isOpen => exact orderly.breakOff isOpen
  | strays disk strays present takes => exact orderly.withStorage _ strays
  | flushes due =>
    obtain ⟨notLast, free⟩ := isLast_eq_false_of_mayFlush due
    have notEnded : ∀ failure, collector.stage ≠ .ended failure := by
      intro failure isEnded
      rw [isEnded] at notLast
      cases notLast
    exact orderly.beginOwn free notEnded
  | closes failure stopped free =>
    unfold closeStorage
    dsimp only
    split
    · exact orderly.beginOwn free nofun
    · exact ⟨orderly.exclusive, orderly.numbered, orderly.waits, orderly.saves, nofun, fun _ _ => free⟩

end Collector

end Telemetry
