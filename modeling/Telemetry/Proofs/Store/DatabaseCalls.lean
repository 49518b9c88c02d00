import Telemetry.Proofs.Retry
import Telemetry.Proofs.Store.Database
import Telemetry.Proofs.Store.MemoryCalls
import Telemetry.Store.DatabaseStorage

/-!
# Calls of a storage in a database

A call of a storage in a database means for the tables what the same call of a storage in memory means for
the store: `Store.afterCall`. It is attempted four times, so three failures that may pass do not matter to
it. The database adds to a counter by itself and refuses a total that is out of range, also in the middle of
a batch, which a storage in memory does before it changes anything; the answers are the same.
-/

namespace Telemetry

namespace DatabaseStorage

open Database (Realizes Realized Met BeginsUnlessFailing)

variable {begin : Action Database DatabaseError Store} {database : Database} {storage : MemoryStorage}

/-! ## Attempts -/

section Attempts

variable {Result : Type} {label : String} {operation : Action Database StorageError Result}
  {meaning : Store → Except StorageError (Store × Result)} {number total delay count : Nat} {later : List Nat}

/-- Only an attempt that meets a failure is followed by another one. -/
theorem realized_runFrom
    (first : Realized 1 StorageError.isRetriable (meaning database.tables) database (operation database))
    (final : ∀ tables cause, meaning tables = .error cause → cause.isRetriable = false)
    (goOn : ∀ cause, (operation database).result = .error cause → cause.isRetriable = true →
      (operation database).world.tables = database.tables → Met 1 database (operation database).world →
        Realized count StorageError.isRetriable (meaning database.tables) database
          ((terms label).runFrom operation number total delay later database)) :
    Realized count StorageError.isRetriable (meaning database.tables) database
      ((terms label).runFrom operation number total delay later database) := by
  cases first with
  | done means answers holds met =>
    rw [RetryTerms.runFrom_of_ok answers]
    exact .done means answers holds met
  | refused means fails unchanged met =>
    rw [RetryTerms.runFrom_of_final fails (final _ _ means)]
    exact .refused means fails unchanged met
  | gaveUp fails retriable unchanged met => exact goOn _ fails retriable unchanged met

/-- Attempts end with the first that does what is meant. If none does, each of them has met a failure. -/
theorem realizes_runFrom (realizes : Realizes 1 StorageError.isRetriable operation meaning)
    (final : ∀ tables cause, meaning tables = .error cause → cause.isRetriable = false) (later : List Nat)
    (number total delay : Nat) :
    Realizes (later.length + 1) StorageError.isRetriable
      ((terms label).runFrom operation number total delay later) meaning := by
  induction later generalizing number delay with
  | nil =>
    intro database transient
    refine realized_runFrom (realizes database transient) final fun cause fails retriable unchanged met => ?_
    rw [RetryTerms.runFrom_nil_of_retriable fails retriable]
    exact .gaveUp fails retriable unchanged met
  | cons next later inductionHypothesis =>
    intro database transient
    refine realized_runFrom (realizes database transient) final fun cause fails retriable unchanged met => ?_
    rw [RetryTerms.runFrom_cons_of_retriable fails retriable]
    cases inductionHypothesis (number + 1) next _ met.transient with
    | done means answers holds others =>
      exact .done (unchanged ▸ means) answers holds ((met.trans others).weaken (Nat.zero_le _))
    | refused means fails stillUnchanged others =>
      exact .refused (unchanged ▸ means) fails (stillUnchanged.trans unchanged)
        ((met.trans others).weaken (Nat.zero_le _))
    | gaveUp fails retriable stillUnchanged others =>
      refine .gaveUp fails retriable (stillUnchanged.trans unchanged) ((met.trans others).weaken ?_)
      rw [List.length_cons, Nat.add_comm 1]

end Attempts

theorem realizes_retrying {Result : Type} (label : String) {operation : Action Database StorageError Result}
    {meaning : Store → Except StorageError (Store × Result)}
    (realizes : Realizes 1 StorageError.isRetriable operation meaning)
    (final : ∀ tables cause, meaning tables = .error cause → cause.isRetriable = false) :
    Realizes 4 StorageError.isRetriable (retrying label operation) meaning :=
  realizes_runFrom realizes final [1000, 3000, 5000] 1 4 0

/-- An action on the database in the terms of the storage. -/
theorem realizes_mapCause_database {Result : Type} {count : Nat}
    {action : Action Database DatabaseError Result}
    {meaning : Store → Except DatabaseError (Store × Result)}
    (realizes : Realizes count DatabaseError.isRetriable action meaning) :
    Realizes count StorageError.isRetriable (action.mapCause .database) fun tables =>
      (meaning tables).mapError .database :=
  realizes.mapCause fun _ retriable => retriable

/-! ## Updates -/

/-- What the database reports about a total out of range is what the store refuses. -/
theorem mapError_run_upsertCounter (tables : Store) (name : String) (delta : Count) :
    ((Statement.upsertCounter name delta).run tables).mapError (counterError name) =
      (tables.addCounter name delta).mapError .validation := by
  unfold Store.addCounter Store.total
  rw [Statement.run]
  cases tables.counters.get? name with
  | none => simp
  | some stored =>
    dsimp only [Option.getD_some]
    cases stored.add? delta <;> rfl

theorem counterError_of_isRetriable (name : String) {cause : DatabaseError}
    (retriable : cause.isRetriable = true) :
    (counterError name cause).isRetriable = true := by
  unfold counterError
  split
  · split
    · next isRange =>
      subst isRange
      cases retriable
    · exact retriable
  · exact retriable

theorem mapError_map {Cause Other Result Next : Type} (result : Except Cause Result) (convert : Cause → Other)
    (turn : Result → Next) : (result.map turn).mapError convert = (result.mapError convert).map turn := by
  cases result <;> rfl

/-- An update whose value is a number. -/
def IsNumber : String × Value → Prop
  | (_, .gauge value) => value.isFinite = true
  | (_, .counter _) => True

theorem realizes_updateWithin (copy : Store) {update : String × Value} (isNumber : IsNumber update) :
    Realizes 1 StorageError.isRetriable (updateWithin copy update) fun tables =>
      ((copy.apply update.1 update.2).mapError StorageError.validation).map fun changed => (tables, changed) := by
  obtain ⟨name, value⟩ := update
  cases value with
  | gauge value =>
    have executed :=
      realizes_mapCause_database (Database.realizes_executeWithin copy (.upsertGauge name value))
    refine (executed.bind_pure Prod.fst).congr fun tables => ?_
    rw [Store.apply_gauge_eq_ok_iff.2 ⟨isNumber, rfl⟩]
    rfl
  | counter delta =>
    have executed := (Database.realizes_executeWithin copy (.upsertCounter name delta)).mapCause
      (fun _ => counterError_of_isRetriable name)
    refine (executed.bind_pure Prod.fst).congr fun tables => ?_
    rw [mapError_map, mapError_run_upsertCounter, Store.apply]
    cases copy.addCounter name delta <;> rfl

theorem realizes_updatesWithin (copy : Store) {updates : List (String × Value)}
    (areNumbers : ∀ update ∈ updates, IsNumber update) :
    Realizes 1 StorageError.isRetriable (updatesWithin copy updates) fun tables =>
      ((copy.applyAll updates).mapError StorageError.validation).map fun changed => (tables, changed) := by
  induction updates generalizing copy with
  | nil => exact Realizes.pure copy
  | cons update updates inductionHypothesis =>
    have first := realizes_updateWithin copy (areNumbers update List.mem_cons_self)
    have others (changed : Store) := inductionHypothesis changed fun other member =>
      areNumbers other (List.mem_cons_of_mem _ member)
    refine (first.bind fun _ changed _ => others changed).congr fun tables => ?_
    rw [Store.applyAll_cons]
    cases copy.apply update.1 update.2 <;> rfl

theorem realizes_transactionFrom (begins : BeginsUnlessFailing begin) {updates : List (String × Value)}
    (areNumbers : ∀ update ∈ updates, IsNumber update) :
    Realizes 1 StorageError.isRetriable (transactionFrom begin updates) fun tables =>
      ((tables.applyAll updates).mapError StorageError.validation).map fun changed => (changed, ()) := by
  have begun : Realizes 1 StorageError.isRetriable (begin.mapCause .database) fun tables =>
      (Except.ok tables).map fun copy => (tables, copy) :=
    realizes_mapCause_database begins
  have ended (changed : Store) := realizes_mapCause_database (Database.realizes_commit changed)
  refine (begun.bind fun _ copy _ =>
    (realizes_updatesWithin copy areNumbers).bind fun _ changed _ => ended changed).congr fun tables => ?_
  show ((tables.applyAll updates).mapError StorageError.validation).bind _ = _
  cases tables.applyAll updates <;> rfl

/-! ## Calls -/

/-- What a call means for the tables. -/
def meaningOf (call : StorageCall) (tables : Store) : Except StorageError (Store × StorageAnswer) :=
  ((tables.afterCall call).map fun next => (next, MemoryStorage.answerOf tables next call)).mapError .validation

/-- The updates of a batch that is not refused have numbers. -/
theorem isNumber_of_plan {records : List Record} {updates : List (String × Value)}
    (planned : Batch.plan records = .ok updates) : ∀ update ∈ updates, IsNumber update := by
  obtain ⟨valid, rfl⟩ := Batch.plan_eq_ok planned
  rw [← Batch.filterMap_asked?_known]
  intro update member
  obtain ⟨record, listed, asked⟩ := List.mem_filterMap.1 member
  obtain ⟨value, validated⟩ := valid record listed
  cases (Record.asked?_of_validate_eq_ok validated).symm.trans asked
  cases value with
  | gauge value =>
    obtain ⟨_, _, _, _, finite⟩ := Record.validate_eq_ok_gauge_iff.1 validated
    exact finite
  | counter delta => exact trivial

/-- A statement that only looks at the tables, or changes them without refusing anything. -/
theorem realizes_retrying_execute {Answer : Type} (label : String) (statement : Statement Answer)
    {change : Store → Store × Answer} (runs : ∀ tables, statement.run tables = .ok (change tables)) :
    Realizes 4 StorageError.isRetriable (retrying label (execute statement)) fun tables =>
      .ok (change tables) := by
  refine realizes_retrying label ((realizes_mapCause_database (Database.realizes_execute statement)).congr
    fun tables => ?_) nofun
  rw [runs]
  rfl

theorem isRetriable_of_refused {Result : Type} {result : Except ValidationError Result} {cause : StorageError}
    (refused : result.mapError .validation = .error cause) : cause.isRetriable = false := by
  cases result with
  | ok result => cases refused
  | error reason =>
    cases refused
    rfl

theorem realizes_updateGauge (name : String) (value : Binary64) :
    Realizes 4 StorageError.isRetriable ((backendFrom begin).updateGauge name value) fun tables =>
      ((tables.setGauge name value).map fun next => (next, ())).mapError .validation := by
  have checked : Realizes 4 StorageError.isRetriable
      (Action.ofExcept (value.checkGauge.mapError StorageError.validation)) fun tables =>
        (value.checkGauge.mapError StorageError.validation).map fun result => (tables, result) := .ofExcept _
  have replaced := realizes_retrying_execute "update gauge" (.upsertGauge name value) fun _ => rfl
  refine (checked.bind fun _ _ _ => replaced).congr fun tables => ?_
  unfold Store.setGauge
  cases value.checkGauge <;> rfl

theorem realizes_updateCounter (name : String) (delta : Count) :
    Realizes 4 StorageError.isRetriable ((backendFrom begin).updateCounter name delta) fun tables =>
      (tables.addCounter name delta).mapError .validation := by
  refine realizes_retrying _ ?_ fun _ _ => isRetriable_of_refused
  refine ((Database.realizes_execute (.upsertCounter name delta)).mapCause
    fun _ => counterError_of_isRetriable name).congr fun tables => ?_
  exact mapError_run_upsertCounter tables name delta

theorem realizes_updateBatch (begins : BeginsUnlessFailing begin) (records : List Record) :
    Realizes 4 StorageError.isRetriable ((backendFrom begin).updateBatch records) fun tables =>
      ((tables.updateBatch records).map fun next => (next, ())).mapError .validation := by
  have reported : Realizes 4 StorageError.isRetriable (Action.report (Batch.planLog records)) fun tables =>
      (Except.ok ()).map fun result => (tables, result) := .report _
  have planned : Realizes 4 StorageError.isRetriable
      (Action.ofExcept ((Batch.plan records).mapError StorageError.validation)) fun tables =>
        ((Batch.plan records).mapError StorageError.validation).map fun result => (tables, result) := .ofExcept _
  have applied (updates : List (String × Value))
      (isPlan : (Batch.plan records).mapError StorageError.validation = .ok updates) :
      Realizes 4 StorageError.isRetriable (retrying "batch update" (transactionFrom begin updates)) fun tables =>
        ((tables.applyAll updates).map fun changed => (changed, ())).mapError .validation := by
    cases plan : Batch.plan records with
    | error cause =>
      rw [plan] at isPlan
      cases isPlan
    | ok found =>
      rw [plan] at isPlan
      cases isPlan
      refine realizes_retrying _ ?_ fun _ _ => isRetriable_of_refused
      refine (realizes_transactionFrom begins (isNumber_of_plan plan)).congr fun tables => ?_
      rw [mapError_map]
  refine (reported.bind fun _ _ _ => planned.bind fun _ => applied).congr fun tables => ?_
  show ((Batch.plan records).mapError StorageError.validation).bind _ = _
  unfold Store.updateBatch
  cases Batch.plan records <;> rfl

theorem realizes_perform (begins : BeginsUnlessFailing begin) (call : StorageCall) :
    Realizes 4 StorageError.isRetriable ((backendFrom begin).perform call) (meaningOf call) := by
  cases call with
  | ping => exact (realizes_retrying_execute "ping" .ping fun _ => rfl).bind_pure _
  | getGauge name => exact (realizes_retrying_execute "get gauge" (.getGauge name) fun _ => rfl).bind_pure _
  | getCounter name =>
    exact (realizes_retrying_execute "get counter" (.getCounter name) fun _ => rfl).bind_pure _
  | gaugeNames => exact (realizes_retrying_execute "list gauges" .listGauges fun _ => rfl).bind_pure _
  | counterNames => exact (realizes_retrying_execute "list counters" .listCounters fun _ => rfl).bind_pure _
  | updateGauge name value =>
    refine ((realizes_updateGauge name value).bind_pure _).congr fun tables => ?_
    rw [meaningOf, Store.afterCall]
    cases tables.setGauge name value <;> rfl
  | updateCounter name delta =>
    refine ((realizes_updateCounter name delta).bind_pure _).congr fun tables => ?_
    rw [meaningOf, Store.afterCall]
    cases added : tables.addCounter name delta with
    | error cause => rfl
    | ok result =>
      obtain ⟨next, total⟩ := result
      obtain ⟨_, rfl⟩ := Store.addCounter_eq_ok_iff.1 added
      simp [Except.map, MemoryStorage.answerOf, Store.total]
  | updateBatch records =>
    refine ((realizes_updateBatch begins records).bind_pure _).congr fun tables => ?_
    rw [meaningOf, Store.afterCall]
    cases tables.updateBatch records <;> rfl

/-- A storage in memory does what a call means. -/
theorem perform_memory (storage : MemoryStorage) (call : StorageCall) :
    (MemoryStorage.backend.perform call storage).result = (meaningOf call storage.store).map Prod.snd ∧
      (MemoryStorage.backend.perform call storage).world.store =
        match meaningOf call storage.store with
        | .ok (next, _) => next
        | .error _ => storage.store := by
  rw [MemoryStorage.perform_result, MemoryStorage.perform_world, meaningOf]
  cases called : storage.store.afterCall call with
  | error cause => exact ⟨rfl, by simp [Except.map, Except.mapError]⟩
  | ok next =>
    refine ⟨rfl, ?_⟩
    dsimp only [Except.map, Except.mapError]
    split
    · next reads =>
      cases (storage.store.afterCall_of_isRead reads).symm.trans called
      rfl
    · exact MemoryStorage.settle_ok_store storage next

/-- A call that meets three failures at most does what it does to a storage in memory. -/
theorem perform_agrees (begins : BeginsUnlessFailing begin) {call : StorageCall}
    (transient : database.IsTransient) (sameMaps : database.tables = storage.store)
    (fewFailures : database.failuresAhead ≤
      ((backendFrom begin).perform call database).world.failuresAhead + 3) :
    ((backendFrom begin).perform call database).result =
        (MemoryStorage.backend.perform call storage).result ∧
      ((backendFrom begin).perform call database).world.tables =
        (MemoryStorage.backend.perform call storage).world.store ∧
      ((backendFrom begin).perform call database).world.IsTransient := by
  obtain ⟨sameResult, sameStore⟩ := perform_memory storage call
  rw [sameResult, sameStore, ← sameMaps]
  cases realizes_perform begins call database transient with
  | done means answers holds met =>
    rw [means, answers, holds]
    exact ⟨rfl, rfl, met.transient⟩
  | refused means fails unchanged met =>
    rw [means, fails, unchanged]
    exact ⟨rfl, rfl, met.transient⟩
  | gaveUp _ _ _ met =>
    have fewer := met.fewer
    omega

/-- The storages in a database and in memory answer all calls alike and hold the same metrics after each of
them, where each call of the database meets three failures at most, which may pass and have no effect. That a
transaction does not begin is such a failure. -/
theorem performAll_agrees (begins : BeginsUnlessFailing begin) (calls : List StorageCall)
    (transient : database.IsTransient) (sameMaps : database.tables = storage.store)
    (fewFailures : ∀ done call later, calls = done ++ call :: later →
      let before := ((backendFrom begin).performAll database done).1
      before.failuresAhead ≤ ((backendFrom begin).perform call before).world.failuresAhead + 3) :
    ∀ done, done <+: calls →
      ((backendFrom begin).performAll database done).2 = (MemoryStorage.backend.performAll storage done).2 ∧
        ((backendFrom begin).performAll database done).1.tables =
          (MemoryStorage.backend.performAll storage done).1.store := by
  induction calls generalizing database storage with
  | nil =>
    intro done isPrefix
    cases List.prefix_nil.1 isPrefix
    exact ⟨rfl, sameMaps⟩
  | cons call calls inductionHypothesis =>
    obtain ⟨sameAnswer, sameAfter, stillTransient⟩ :=
      perform_agrees begins transient sameMaps (fewFailures [] call calls rfl)
    have others := inductionHypothesis stillTransient sameAfter fun done next later divided =>
      fewFailures (call :: done) next later (congrArg (call :: ·) divided)
    intro done isPrefix
    cases done with
    | nil => exact ⟨rfl, sameMaps⟩
    | cons first done =>
      obtain ⟨rfl, rest⟩ := List.cons_prefix_cons.1 isPrefix
      obtain ⟨sameAnswers, sameMaps⟩ := others done rest
      exact ⟨congrArg₂ List.cons sameAnswer sameAnswers, sameMaps⟩

/-- A refused connection, and a batch whose attempts fail at its first statement and at its second one; or, where
transactions are begun by a statement, at this one and at its second one. -/
theorem performAll_agrees_after_failures :
    let load : Binary64 := ⟨0x3ff8000000000000⟩
    let lost : Fault := ⟨.connectionLost, false⟩
    let broken : Fault := ⟨.reported (some "08006") "connection failure", false⟩
    let storage := MemoryStorage.fresh none Disk.empty
    let calls : List StorageCall :=
      [.updateCounter "PollCount" ⟨5, by decide, by decide⟩,
        .updateBatch [.gauge "Load" load, .counter "PollCount" ⟨2, by decide, by decide⟩],
        .getCounter "PollCount"]
    let Agree (begin : Action Database DatabaseError Store) (faults : List (Option Fault)) : Prop :=
      let done := (backendFrom begin).performAll (Database.fresh [some .connectionLost] faults) calls
      done.2 = (MemoryStorage.backend.performAll storage calls).2 ∧
        done.1.tables = (MemoryStorage.backend.performAll storage calls).1.store
    Agree Database.begin [none, some lost, none, some broken] ∧
      Agree Database.beginBySending [none, some lost, none, none, some broken] := by
  intro load lost broken storage calls Agree
  let cuts := (List.range 3).map fun count => (calls.take count, calls.getD count .ping)
  have cut {done later : List StorageCall} {call : StorageCall} (divided : calls = done ++ call :: later) :
      (done, call) ∈ cuts := by
    have short : done.length < 3 := by
      have length : 3 = (done ++ call :: later).length := congrArg List.length divided
      rw [List.length_append, List.length_cons] at length
      omega
    refine List.mem_map.2 ⟨done.length, List.mem_range.2 short, ?_⟩
    rw [divided]
    simp
  have agree {begin : Action Database DatabaseError Store} (begins : BeginsUnlessFailing begin)
      {faults : List (Option Fault)} (known : ∀ fault, some fault ∈ faults → fault = lost ∨ fault = broken)
      (few : ∀ cut ∈ cuts,
        let before := ((backendFrom begin).performAll (Database.fresh [some .connectionLost] faults) cut.1).1
        before.failuresAhead ≤ ((backendFrom begin).perform cut.2 before).world.failuresAhead + 3) :
      Agree begin faults := by
    have transient : (Database.fresh [some .connectionLost] faults).IsTransient := by
      constructor
      · intro cause member
        cases List.mem_singleton.1 member
        exact .inl rfl
      · intro fault member
        rcases known fault member with rfl | rfl <;> exact ⟨rfl, rfl⟩
    exact performAll_agrees begins calls transient rfl (fun _ _ _ divided => few _ (cut divided)) calls
      (List.prefix_refl calls)
  constructor
  · exact agree Database.beginsUnlessFailing_begin (by simp) (by decide +kernel)
  · exact agree Database.beginsUnlessFailing_beginBySending (by simp) (by decide +kernel)

end DatabaseStorage

end Telemetry
