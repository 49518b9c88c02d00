import Telemetry.Proofs.Collector.Responses

/-!
# Coming to an end

Whatever a collector is in the middle of, it can come to its end in good order: those who save go on until they
are done, their connections are answered and come to an end, strays come to theirs, and the last snapshot is
written with nothing left.
-/

namespace Telemetry

/-- An event that belongs to an end in good order: nothing is asked any more, and nobody breaks off. -/
def CollectorEvent.isOrderly : CollectorEvent → Bool
  | goOn _ | close _ none | strayEnd _ | strayRename _ | shutdown | drained | closeStorage => true
  | _ => false

/-- An event by which a connection is not at its end when it is not waited for any more. -/
def CollectorEvent.cutsShort : CollectorEvent → Bool
  | hangUp _ | cutOff _ | timeUp => true
  | accept (some cause) => !Collector.concernsOneConnection cause
  | _ => false

namespace Collector

variable {collector middle next final : Collector} {event : CollectorEvent} {events : List CollectorEvent}
  {effects : List CollectorEffect} {connection saver : Nat}

/-- The collector can come from one state to another in good order, with nothing left. -/
def Reaches (collector next : Collector) : Prop :=
  ∃ events effects, Run step collector events effects next ∧
    (∀ event ∈ events, event.isOrderly = true) ∧ left effects = []

theorem Reaches.refl (collector : Collector) : Reaches collector collector :=
  ⟨[], [], .nil collector, nofun, rfl⟩

theorem Reaches.step (stepped : collector.step event = some (middle, effects))
    (isOrderly : event.isOrderly = true) (leavesNothing : left effects = []) (rest : Reaches middle next) :
    Reaches collector next := by
  obtain ⟨events, later, ran, areOrderly, leavesNothingLater⟩ := rest
  refine ⟨event :: events, effects ++ later, .cons stepped ran, ?_, ?_⟩
  · exact List.forall_mem_cons.2 ⟨isOrderly, areOrderly⟩
  · rw [left_append, leavesNothing, leavesNothingLater]
    rfl

theorem Reaches.trans (first : Reaches collector middle) (rest : Reaches middle next) :
    Reaches collector next := by
  obtain ⟨events, effects, ran, areOrderly, leavesNothing⟩ := first
  obtain ⟨eventsLater, effectsLater, ranLater, areOrderlyLater, leavesNothingLater⟩ := rest
  refine ⟨events ++ eventsLater, effects ++ effectsLater, ?_, ?_, ?_⟩
  · exact Run.append_iff.2 ⟨middle, effects, effectsLater, rfl, ran, ranLater⟩
  · exact List.forall_mem_append.2 ⟨areOrderly, areOrderlyLater⟩
  · rw [left_append, leavesNothing, leavesNothingLater]
    rfl

theorem Reaches.orderly (reaches : Reaches collector next) (orderly : Orderly collector) : Orderly next := by
  obtain ⟨events, effects, ran, _⟩ := reaches
  exact ran.preserves (fun _ _ reached => Orderly reached) orderly fun orderly stepped =>
    orderly.change (step_change stepped)

/-! ## Snapshots -/

/-- A collector in memory that keeps a snapshot. -/
def Persists (collector : Collector) : Prop :=
  ∃ storage file, collector.storage = .memory storage ∧ storage.file = some file

/-- As long as somebody saves, somebody can go on. -/
theorem exists_saveOn (orderly : Orderly collector) (persists : Persists collector)
    (busy : collector.savers ≠ []) :
    ∃ saver next effects, collector.step (.goOn saver) = some (next, effects) ∧ left effects = [] ∧
      Persists next ∧ Saving.work next.savers < Saving.work collector.savers ∧
      next.connections = collector.connections ∧ next.strays = collector.strays ∧
      (next.stage = collector.stage ∨ ∃ cause, next.stage = .ended cause) := by
  obtain ⟨storage, file, inMemory, kept⟩ := persists
  let saving : Saving := ⟨storage.store, storage.disk, file.path, collector.writer, collector.savers⟩
  have saves : collector.saving? = some saving := saving?_eq inMemory kept
  have exclusive : Saving.Exclusive saving.writer saving.clients := orderly.exclusive
  obtain ⟨saver, phase, saved, _, found, savingStepped⟩ := Saving.exists_goesOn exclusive busy
  have fewer : Saving.work saved.clients < Saving.work collector.savers :=
    (Saving.goesOn_of_step found savingStepped).work_lt found
  have stepped := step_goOn saves found savingStepped
  obtain ⟨sameStorage, sameSavers, sameConnections, sameStrays, stage⟩ :=
    (collector.afterSaving saved).afterPhase_keeps saver phase
  have persistsAfter : Persists ((collector.afterSaving saved).afterPhase saver phase).1 := by
    refine ⟨{ storage with disk := saved.disk }, file, ?_, kept⟩
    rw [sameStorage, afterSaving, inMemory]
    rfl
  refine ⟨saver, _, _, stepped, left_afterPhase _ _ _, persistsAfter,
    (congrArg Saving.work sameSavers).trans_lt fewer, sameConnections, sameStrays, ?_⟩
  rcases stage with sameStage | ⟨cause, _, isEnded⟩
  · exact .inl sameStage
  · exact .inr ⟨cause, isEnded⟩

/-- All who save can go on until they are done. -/
theorem exists_reaches_saved (orderly : Orderly collector) (persists : Persists collector) :
    ∃ next, Reaches collector next ∧ Persists next ∧ next.savers = [] ∧
      next.connections = collector.connections ∧ next.strays = collector.strays ∧
      (next.stage = collector.stage ∨ ∃ cause, next.stage = .ended cause) := by
  generalize much : Saving.work collector.savers = work
  induction work using Nat.strong_induction_on generalizing collector with
  | _ work inductionHypothesis =>
    by_cases idle : collector.savers = []
    · exact ⟨collector, .refl collector, persists, idle, rfl, rfl, .inl rfl⟩
    · obtain ⟨saver, middle, effects, stepped, leavesNothing, persistsMiddle, fewer, sameConnections,
        sameStrays, stage⟩ := exists_saveOn orderly persists idle
      obtain ⟨next, reaches, persistsNext, done, connections, strays, stageNext⟩ :=
        inductionHypothesis _ (much ▸ fewer) (orderly.change (step_change stepped)) persistsMiddle rfl
      refine ⟨next, .step stepped rfl leavesNothing reaches, persistsNext, done,
        connections.trans sameConnections, strays.trans sameStrays, ?_⟩
      rcases stageNext with same | isEnded
      · rw [same]
        exact stage
      · exact .inr isEnded

/-! ## Connections and strays -/

/-- When nobody saves, all open connections can come to an end. -/
theorem exists_reaches_closed (orderly : Orderly collector) (idle : collector.savers = []) :
    ∃ next, Reaches collector next ∧ next.connections = [] ∧ next.savers = [] ∧
      next.storage = collector.storage ∧ next.strays = collector.strays ∧ next.stage = collector.stage := by
  generalize count : collector.connections.length = connections
  induction connections using Nat.strong_induction_on generalizing collector with
  | _ connections inductionHypothesis =>
    cases isOpen : collector.connections with
    | nil => exact ⟨collector, .refl collector, isOpen, idle, rfl, rfl, rfl⟩
    | cons connection others =>
      have isMember : connection ∈ collector.connections := isOpen ▸ List.mem_cons_self
      have unheld : (collector.answers.lookup connection).isNone = true := by
        rw [Option.isNone_iff_eq_none, ← Option.not_isSome_iff_eq_none,
          ← orderly.saves connection (orderly.ne_ownNumber isMember), idle]
        exact Bool.false_ne_true
      have waits : collector.isIdle connection = true :=
        (Bool.and_eq_true _ _).mpr ⟨List.contains_iff_mem.2 isMember, unheld⟩
      have stepped : collector.step (.close connection none) = some (collector.breakOff connection, []) :=
        if_pos waits
      have fewer : (collector.breakOff connection).connections.length < connections := by
        rw [← count]
        exact List.length_filter_lt_length_iff_exists.2 ⟨connection, isMember, by simp⟩
      have stillIdle : (collector.breakOff connection).savers = [] := by
        rw [breakOff, idle]
        rfl
      have sameStrays : (collector.breakOff connection).strays = collector.strays := by
        rw [breakOff, idle]
        exact List.append_nil _
      obtain ⟨next, reaches, closed, done, sameStorage, strays, stage⟩ :=
        inductionHypothesis _ fewer (orderly.change (step_change stepped)) stillIdle rfl
      exact ⟨next, .step stepped rfl rfl reaches, closed, done, sameStorage, strays.trans sameStrays, stage⟩

/-- All strays can come to their end. -/
theorem exists_reaches_cleared (collector : Collector) (persists : Persists collector) :
    ∃ next, Reaches collector next ∧ Persists next ∧ next.strays = [] ∧ next.savers = collector.savers ∧
      next.connections = collector.connections ∧ next.stage = collector.stage := by
  generalize count : collector.strays.length = strays
  induction strays generalizing collector with
  | zero => exact ⟨collector, .refl collector, persists, List.length_eq_zero_iff.1 count, rfl, rfl, rfl⟩
  | succ strays inductionHypothesis =>
    obtain ⟨⟨connection, stray⟩, isMember⟩ := List.exists_mem_of_length_eq_add_one count
    have fewer : (collector.strays.erase (connection, stray)).length = strays := by
      rw [List.length_erase_of_mem isMember, count]
      rfl
    cases stray with
    | writing =>
      have stepped : collector.step (.strayEnd connection) =
          some ({ collector with strays := collector.strays.erase (connection, .writing) }, []) := if_pos isMember
      obtain ⟨next, reaches, rest⟩ := inductionHypothesis
        { collector with strays := collector.strays.erase (connection, .writing) } persists fewer
      exact ⟨next, .step stepped rfl rfl reaches, rest⟩
    | «renaming» =>
      obtain ⟨disk, touched, _⟩ := collector.exists_touch_eq
        (fun disk path => disk.rename (Disk.sibling path) path)
        fun _ _ _ moved takes => takes.of_rename_sibling moved
      have stepped : collector.step (.strayRename connection) =
          some ({ collector with
            storage := collector.storage.withDisk disk
            strays := collector.strays.erase (connection, .renaming) }, []) := by
        refine (if_pos isMember).trans ?_
        rw [touched]
      obtain ⟨storage, file, inMemory, kept⟩ := persists
      have persistsAfter : Persists { collector with
          storage := collector.storage.withDisk disk
          strays := collector.strays.erase (connection, .renaming) } := by
        refine ⟨{ storage with disk }, file, ?_, kept⟩
        rw [inMemory]
        rfl
      obtain ⟨next, reaches, rest⟩ := inductionHypothesis _ persistsAfter fewer
      exact ⟨next, .step stepped rfl rfl reaches, rest⟩

/-! ## The end -/

/-- There is nobody and nothing that a collector would have to wait for. -/
structure IsQuiet (collector : Collector) : Prop where
  persists : Persists collector
  closed : collector.connections = []
  cleared : collector.strays = []
  idle : collector.savers = []

theorem IsQuiet.withStage (quiet : IsQuiet collector) (stage : CollectorStage) :
    IsQuiet { collector with stage } :=
  ⟨quiet.persists, quiet.closed, quiet.cleared, quiet.idle⟩

theorem IsQuiet.exists_closing_of_stopped (quiet : IsQuiet collector) {failure : Option IoError}
    (stopped : collector.stage = .stopped failure) :
    ∃ next, Reaches collector next ∧ Persists next ∧ next.stage = .closing failure := by
  obtain ⟨storage, file, inMemory, kept⟩ := quiet.persists
  have keeps : collector.storage.file? = some file := by
    rw [inMemory]
    exact kept
  have nobody : collector.connections ++ collector.strays.map Prod.fst = [] := by
    rw [quiet.closed, quiet.cleared]
    rfl
  have free : collector.savers.lookup ownNumber = none := by
    rw [quiet.idle]
    rfl
  have stepped : collector.step .closeStorage =
      some ({ collector with stage := .closing failure }.beginSaving ownNumber, []) := by
    rw [step, stopped, free]
    dsimp only
    rw [closeStorage, keeps, nobody]
    rfl
  exact ⟨_, .step stepped rfl rfl (.refl _), ⟨storage, file, inMemory, kept⟩, rfl⟩

theorem IsQuiet.exists_closing_of_draining (quiet : IsQuiet collector) (draining : collector.stage = .draining) :
    ∃ next, Reaches collector next ∧ Persists next ∧ next.stage = .closing none := by
  have stepped : collector.step .drained = some ({ collector with stage := .stopped none }, []) :=
    if_pos ⟨draining, quiet.closed⟩
  obtain ⟨next, reaches, rest⟩ := (quiet.withStage (.stopped none)).exists_closing_of_stopped rfl
  exact ⟨next, .step stepped rfl rfl reaches, rest⟩

/-- A collector that has nothing to wait for can have its last snapshot begun. -/
theorem IsQuiet.exists_closing (quiet : IsQuiet collector) (notLast : collector.stage.isLast = false) :
    ∃ next failure, Reaches collector next ∧ Persists next ∧ next.stage = .closing failure := by
  cases stage : collector.stage with
  | serving =>
    have stepped : collector.step .shutdown = some ({ collector with stage := .draining }, []) := if_pos stage
    obtain ⟨next, reaches, rest⟩ := (quiet.withStage .draining).exists_closing_of_draining rfl
    exact ⟨next, none, .step stepped rfl rfl reaches, rest⟩
  | draining =>
    obtain ⟨next, reaches⟩ := quiet.exists_closing_of_draining stage
    exact ⟨next, none, reaches⟩
  | stopped failure =>
    obtain ⟨next, reaches⟩ := quiet.exists_closing_of_stopped stage
    exact ⟨next, failure, reaches⟩
  | closing failure =>
    rw [stage] at notLast
    cases notLast
  | ended failure =>
    rw [stage] at notLast
    cases notLast

/-- A collector whose last snapshot has been begun can come to its end. -/
theorem exists_reaches_ended_of_isLast (orderly : Orderly collector) (persists : Persists collector)
    (isLast : collector.stage.isLast = true) :
    ∃ ended cause, Reaches collector ended ∧ ended.stage = .ended cause := by
  obtain ⟨saved, reaches, _, idle, _, _, stage⟩ := exists_reaches_saved orderly persists
  rcases stage with same | ⟨cause, isEnded⟩
  · cases before : collector.stage with
    | closing cause =>
      have saves := (reaches.orderly orderly).closing cause (same.trans before)
      rw [idle] at saves
      cases saves
    | ended cause => exact ⟨saved, cause, reaches, same.trans before⟩
    | _ =>
      rw [before] at isLast
      cases isLast
  · exact ⟨saved, cause, reaches, isEnded⟩

/-- Wherever it is, a collector in memory that keeps a snapshot can come to its end in good order. -/
theorem exists_reaches_ended (orderly : Orderly collector) (persists : Persists collector) :
    ∃ ended cause, Reaches collector ended ∧ ended.stage = .ended cause := by
  cases isLast : collector.stage.isLast with
  | true => exact exists_reaches_ended_of_isLast orderly persists isLast
  | false =>
    obtain ⟨saved, reachesSaved, persistsSaved, idle, _, _, stage⟩ := exists_reaches_saved orderly persists
    rcases stage with same | ⟨cause, isEnded⟩
    · obtain ⟨closed, reachesClosed, noConnections, stillIdle, sameStorage, _, sameStage⟩ :=
        exists_reaches_closed (reachesSaved.orderly orderly) idle
      have persistsClosed : Persists closed := by
        obtain ⟨storage, file, inMemory, kept⟩ := persistsSaved
        exact ⟨storage, file, sameStorage.trans inMemory, kept⟩
      obtain ⟨cleared, reachesCleared, persistsCleared, noStrays, sameSavers, sameConnections, stage⟩ :=
        exists_reaches_cleared closed persistsClosed
      have quiet : IsQuiet cleared :=
        ⟨persistsCleared, sameConnections.trans noConnections, noStrays, sameSavers.trans stillIdle⟩
      have notLast : cleared.stage.isLast = false := by rw [stage, sameStage, same, isLast]
      obtain ⟨closing, failure, reachesClosing, persistsClosing, isClosing⟩ := quiet.exists_closing notLast
      have reaches := reachesSaved.trans (reachesClosed.trans (reachesCleared.trans reachesClosing))
      obtain ⟨ended, cause, reachesEnded, isEnded⟩ :=
        exists_reaches_ended_of_isLast (reaches.orderly orderly) persistsClosing (by rw [isClosing]; rfl)
      exact ⟨ended, cause, reaches.trans reachesEnded, isEnded⟩
    · exact ⟨saved, cause, reachesSaved, isEnded⟩

/-! ## Nothing left -/

/-- No connection has broken off, and none is open when they are not waited for any more. -/
structure Unbroken (collector : Collector) : Prop where
  orderly : Orderly collector
  cleared : collector.strays = []
  closed : collector.hasStopped = true → collector.connections = []

theorem Unbroken.closeStorage (unbroken : Unbroken collector) {failure : Option IoError}
    (stopped : collector.stage = .stopped failure) :
    left (collector.closeStorage failure).2 = [] ∧
      (collector.closeStorage failure).1.connections = [] ∧ (collector.closeStorage failure).1.strays = [] := by
  have closed : collector.connections = [] := unbroken.closed (by rw [hasStopped, stopped])
  have nobody : collector.connections ++ collector.strays.map Prod.fst = [] := by
    rw [closed, unbroken.cleared]
    rfl
  rw [Collector.closeStorage, nobody]
  split
  · exact ⟨rfl, closed, unbroken.cleared⟩
  · exact ⟨rfl, closed, unbroken.cleared⟩

theorem Unbroken.step (unbroken : Unbroken collector) (whole : event.cutsShort = false)
    (stepped : collector.step event = some (next, effects)) : Unbroken next ∧ left effects = [] := by
  have orderly := unbroken.orderly.change (step_change stepped)
  have noStray {connection : Nat} {stray : Stray} (present : (connection, stray) ∈ collector.strays) :
      Unbroken next ∧ left effects = [] := by
    rw [unbroken.cleared] at present
    cases present
  unfold Collector.step at stepped
  cases event with
  | accept failure =>
    obtain ⟨serving, accepting⟩ := Option.ite_none_right_eq_some.1 stepped
    cases failure with
    | none =>
      cases accepting
      refine ⟨⟨orderly, unbroken.cleared, fun stopped => ?_⟩, rfl⟩
      rw [hasStopped, opened, serving] at stopped
      cases stopped
    | some cause =>
      dsimp only at accepting
      rw [if_pos (by simpa [CollectorEvent.cutsShort] using whole)] at accepting
      cases accepting
      exact ⟨unbroken, rfl⟩
  | request connection request =>
    obtain ⟨_, handling⟩ := Option.ite_none_right_eq_some.1 stepped
    obtain ⟨response, storage, lines, _, same | same⟩ := collector.handle_cases connection request
    · cases (Option.some.inj handling).symm.trans same
      refine ⟨⟨orderly, unbroken.cleared, unbroken.closed⟩, ?_⟩
      rw [left_append, left_append, left_logging]
      rfl
    · cases (Option.some.inj handling).symm.trans same
      refine ⟨⟨orderly, unbroken.cleared, unbroken.closed⟩, ?_⟩
      rw [left_append, left_logging]
      rfl
  | goOn saver =>
    obtain ⟨_, phase, saved, _, _, _, same⟩ := exists_of_saveOn stepped
    obtain ⟨_, _, sameConnections, sameStrays, stage⟩ :=
      (collector.afterSaving saved).afterPhase_keeps saver phase
    have leavesNothing := left_afterPhase (collector.afterSaving saved) saver phase
    rw [same] at sameConnections sameStrays stage leavesNothing
    refine ⟨⟨orderly, sameStrays.trans unbroken.cleared, fun stopped => ?_⟩, leavesNothing⟩
    refine sameConnections.trans (unbroken.closed ?_)
    rcases stage with sameStage | ⟨cause, closing, _⟩
    · rw [hasStopped] at stopped ⊢
      rw [sameStage] at stopped
      exact stopped
    · have isClosing : collector.stage = .closing cause := closing
      rw [hasStopped, isClosing]
  | close connection fault =>
    obtain ⟨idle, closing⟩ := Option.ite_none_right_eq_some.1 stepped
    cases closing
    obtain ⟨_, _, free⟩ := unbroken.orderly.of_isIdle idle
    refine ⟨⟨orderly, ?_, fun stopped => ?_⟩, left_logging _⟩
    · rw [breakOff, free, unbroken.cleared]
      rfl
    · rw [breakOff, unbroken.closed stopped]
      rfl
  | hangUp connection => cases whole
  | cutOff connection => cases whole
  | strayWrite connection inPlace content => exact noStray (Option.ite_none_right_eq_some.1 stepped).1
  | strayEnd connection => exact noStray (Option.ite_none_right_eq_some.1 stepped).1
  | strayRename connection => exact noStray (Option.ite_none_right_eq_some.1 stepped).1
  | flush =>
    obtain ⟨_, flushing⟩ := Option.ite_none_right_eq_some.1 stepped
    cases flushing
    exact ⟨⟨orderly, unbroken.cleared, unbroken.closed⟩, rfl⟩
  | shutdown =>
    obtain ⟨_, draining⟩ := Option.ite_none_right_eq_some.1 stepped
    cases draining
    refine ⟨⟨orderly, unbroken.cleared, fun stopped => ?_⟩, rfl⟩
    cases stopped
  | drained =>
    obtain ⟨⟨_, closed⟩, stopping⟩ := Option.ite_none_right_eq_some.1 stepped
    cases stopping
    exact ⟨⟨orderly, unbroken.cleared, fun _ => closed⟩, rfl⟩
  | timeUp => cases whole
  | closeStorage =>
    dsimp only at stepped
    split at stepped
    · next failure stopped _ =>
      obtain ⟨leavesNothing, closed, cleared⟩ := unbroken.closeStorage stopped
      rw [Option.some.inj stepped] at leavesNothing closed cleared
      exact ⟨⟨orderly, cleared, fun _ => closed⟩, leavesNothing⟩
    · cases stepped

/-- Where connections come to their end by themselves and in time, nothing is left. -/
theorem left_eq_nil_of_run (ran : Run step collector events effects next) (unbroken : Unbroken collector)
    (whole : ∀ event ∈ events, event.cutsShort = false) : left effects = [] := by
  induction ran with
  | nil => rfl
  | cons stepped _ inductionHypothesis =>
    obtain ⟨first, others⟩ := List.forall_mem_cons.1 whole
    obtain ⟨unbrokenNext, leavesNothing⟩ := unbroken.step first stepped
    rw [left_append, leavesNothing, inductionHypothesis unbrokenNext others]
    rfl

end Collector

end Telemetry
