import Telemetry.Proofs.Store.DatabaseCalls
import Telemetry.Proofs.Store.Repetition

/-!
# Updates of a database that may fail

A statement that is executed at once, or the commit of a transaction, may fail and have its effect all the
same; everything else that can fail has no effect. So an attempt at an update makes all of it or nothing,
and which of the two can be told from the database that it starts in: `Database.executes` and
`DatabaseStorage.commits`. What an update comes to after its attempts is then a matter of counting those
that made it.

How a transaction begins is left open as far as it may fail: it gives the tables, or it changes nothing.
-/

namespace Telemetry

namespace Database

variable {database : Database} {Result Next Cause : Type}

/-- The action leaves the tables as they are. -/
def KeepsTables (action : Action Database Cause Result) : Prop :=
  ∀ database : Database, (action database).world.tables = database.tables

theorem KeepsTables.bind {action : Action Database Cause Result} {next : Result → Action Database Cause Next}
    (first : KeepsTables action) (second : ∀ result, KeepsTables (next result)) :
    KeepsTables (action >>= next) := by
  intro database
  cases outcome : (action database).result with
  | ok result => rw [Action.bind_apply_ok outcome, second, first]
  | error cause => rw [Action.bind_apply_error outcome, first]

theorem keepsTables_connect (attempts : Nat) : KeepsTables (connect attempts) := by
  induction attempts with
  | zero => exact fun _ => rfl
  | succ attempts inductionHypothesis =>
    intro database
    unfold connect
    dsimp only
    split
    · rfl
    · split
      · exact inductionHypothesis _
      · rfl

theorem keepsTables_ensureConnected : KeepsTables ensureConnected := by
  intro database
  unfold ensureConnected
  split
  · rfl
  · exact keepsTables_connect _ database

/-- What is sent next has its effect, whatever is reported. -/
def isEffective (database : Database) : Bool :=
  database.faults.head?.join.all Fault.takesEffect

/-! ## One statement -/

/-- A statement that is executed at once has its effect: there is a connection, no fault keeps the statement
from it, and the tables take it. -/
def executes {Answer : Type} (statement : Statement Answer) (database : Database) : Bool :=
  let reached := ensureConnected database
  reached.result.isOk && reached.world.isEffective && (statement.run reached.world.tables).isOk

theorem outcome_of_effective {Answer : Type} {tables changed : Store} {statement : Statement Answer}
    {answer : Answer} {fault : Option Fault} (effective : fault.all Fault.takesEffect = true)
    (runs : statement.run tables = .ok (changed, answer)) : (outcome tables statement fault).1 = changed := by
  unfold outcome
  cases fault with
  | none => rw [runs]
  | some fault =>
    rw [Option.all_some] at effective
    rw [runs]
    exact if_pos effective

theorem outcome_of_not_effective {Answer : Type} {tables : Store} {statement : Statement Answer}
    {fault : Option Fault}
    (fails : (fault.all Fault.takesEffect && (statement.run tables).isOk) = false) :
    (outcome tables statement fault).1 = tables ∧
      ∃ cause, (outcome tables statement fault).2 = .error cause := by
  unfold outcome
  cases runs : statement.run tables with
  | error cause => cases fault <;> exact ⟨rfl, _, rfl⟩
  | ok changed =>
    rw [runs, Bool.and_eq_false_iff] at fails
    rcases fails with notEffective | notOk
    · cases fault with
      | none => cases notEffective
      | some fault =>
        rw [Option.all_some] at notEffective
        refine ⟨?_, fault.cause, rfl⟩
        simp [notEffective]
    · cases notOk

theorem executes_eq {Answer : Type} (statement : Statement Answer) (database : Database) :
    executes statement database =
      ((ensureConnected database).result.isOk && ((ensureConnected database).world.isEffective &&
        (statement.run database.tables).isOk)) := by
  rw [← Bool.and_assoc, ← keepsTables_ensureConnected database]
  rfl

theorem execute_of_connected {Answer : Type} (statement : Statement Answer)
    (connected : (ensureConnected database).result = .ok ()) :
    let fault := (ensureConnected database).world.faults.head?.join
    (execute statement database).world.tables = (outcome database.tables statement fault).1 ∧
      (execute statement database).result = (outcome database.tables statement fault).2 := by
  intro fault
  have executed : execute statement database = _ := Action.bind_apply_ok connected
  rw [executed, ← keepsTables_ensureConnected database]
  exact ⟨rfl, rfl⟩

/-- A statement that is executed at once has its whole effect or none, and then it fails. -/
theorem makesAllOrNone_execute {Answer : Type} {statement : Statement Answer}
    {updates : List (String × Value)}
    (means : ∀ tables changed answer, statement.run tables = .ok (changed, answer) →
      tables.applyAll updates = .ok changed) (database : Database) :
    MakesAllOrNone (execute statement) Database.tables (executes statement) updates database := by
  constructor
  · intro isMade
    rw [executes_eq] at isMade
    cases connected : (ensureConnected database).result with
    | error cause =>
      rw [connected] at isMade
      cases isMade
    | ok _ =>
      rw [connected] at isMade
      obtain ⟨effective, runs⟩ := Bool.and_eq_true_iff.1 (Bool.and_eq_true_iff.1 isMade).2
      cases ran : statement.run database.tables with
      | error cause =>
        rw [ran] at runs
        cases runs
      | ok changed =>
        rw [(execute_of_connected statement connected).1, outcome_of_effective effective ran]
        exact means _ _ _ ran
  · intro notMade
    rw [executes_eq] at notMade
    cases connected : (ensureConnected database).result with
    | error cause =>
      have executed : execute statement database = _ := Action.bind_apply_error connected
      rw [executed]
      exact ⟨keepsTables_ensureConnected database, cause, rfl⟩
    | ok _ =>
      rw [connected] at notMade
      obtain ⟨tables, result⟩ := execute_of_connected statement connected
      rw [tables, result]
      exact outcome_of_not_effective notMade

/-! ## Transactions -/

/-- A transaction that begins gives the tables. Whether it does or not, it does not change them. -/
structure Begins (begin : Action Database DatabaseError Store) : Prop where
  keepsTables : KeepsTables begin
  gives : ∀ database copy, (begin database).result = .ok copy → copy = database.tables

/-- A transaction that begins as soon as there is a connection. -/
theorem Begins.connected {begin : Action Database DatabaseError Store} (begins : Begins begin) :
    Begins (ensureConnected >>= fun _ => begin) := by
  constructor
  · exact keepsTables_ensureConnected.bind fun _ => begins.keepsTables
  · intro database copy begun
    cases connected : (ensureConnected database).result with
    | error cause =>
      rw [Action.bind_apply_error connected] at begun
      cases begun
    | ok _ =>
      rw [Action.bind_apply_ok connected] at begun
      exact (begins.gives _ copy begun).trans (keepsTables_ensureConnected database)

theorem begins_begin : Begins begin := by
  refine Begins.connected ⟨fun _ => rfl, fun database copy begun => ?_⟩
  cases begun
  rfl

theorem begins_beginBySending : Begins beginBySending := by
  refine Begins.connected ⟨fun database => ?_, fun database copy begun => ?_⟩
  · dsimp only
    split <;> rfl
  · dsimp only at begun
    split at begun
    · cases begun
      rfl
    · cases begun

/-- A statement answers only if it meets no fault. -/
theorem run_of_outcome {Answer : Type} {tables : Store} {statement : Statement Answer} {answer : Answer}
    {fault : Option Fault} (answers : (outcome tables statement fault).2 = .ok answer) :
    statement.run tables = .ok ((outcome tables statement fault).1, answer) := by
  unfold outcome at answers ⊢
  cases ran : statement.run tables with
  | error cause =>
    rw [ran] at answers
    cases fault <;> cases answers
  | ok changed =>
    rw [ran] at answers
    cases fault with
    | none =>
      cases answers
      rfl
    | some fault => cases answers

theorem run_of_executeWithin {Answer : Type} {copy changed : Store} {statement : Statement Answer}
    {answer : Answer} (executed : (executeWithin copy statement database).result = .ok (changed, answer)) :
    statement.run copy = .ok (changed, answer) := by
  let outcome := outcome copy statement database.faults.head?.join
  have mapped : (outcome.2.map fun answer => (outcome.1, answer)) = .ok (changed, answer) := executed
  cases answered : outcome.2 with
  | error cause =>
    rw [answered] at mapped
    cases mapped
  | ok found =>
    rw [answered] at mapped
    cases mapped
    exact run_of_outcome answered

/-- A commit that has its effect puts the copy in the place of the tables. -/
theorem commit_of_effective (copy : Store) (effective : database.isEffective = true) :
    (commit copy database).world.tables = copy := by
  unfold isEffective at effective
  unfold commit
  cases met : database.faults.head?.join with
  | none => simp only [send, met]
  | some fault =>
    rw [met, Option.all_some] at effective
    simp only [send, met, effective, if_true]

/-- A commit that has no effect fails. -/
theorem commit_of_not_effective (copy : Store) (notEffective : database.isEffective = false) :
    (commit copy database).world.tables = database.tables ∧
      ∃ cause, (commit copy database).result = .error cause := by
  unfold isEffective at notEffective
  unfold commit
  cases met : database.faults.head?.join with
  | none =>
    rw [met] at notEffective
    cases notEffective
  | some fault =>
    rw [met, Option.all_some] at notEffective
    simp [send, met, notEffective]

end Database

namespace DatabaseStorage

open Database (Begins KeepsTables)

variable {begin : Action Database DatabaseError Store} {database : Database}

theorem keepsTables_updateWithin (copy : Store) (update : String × Value) :
    KeepsTables (updateWithin copy update) := by
  obtain ⟨name, value⟩ := update
  cases value with
  | gauge value => exact KeepsTables.bind (fun _ => rfl) fun _ _ => rfl
  | counter delta => exact KeepsTables.bind (fun _ => rfl) fun _ _ => rfl

theorem keepsTables_updatesWithin (copy : Store) (updates : List (String × Value)) :
    KeepsTables (updatesWithin copy updates) := by
  induction updates generalizing copy with
  | nil => exact fun _ => rfl
  | cons update updates inductionHypothesis =>
    exact (keepsTables_updateWithin copy update).bind inductionHypothesis

theorem apply_of_run_upsertGauge {tables changed : Store} {name : String} {value : Binary64} {answer : Unit}
    (finite : value.isFinite = true)
    (runs : (Statement.upsertGauge name value).run tables = .ok (changed, answer)) :
    tables.apply name (.gauge value) = .ok changed := by
  cases runs
  exact Store.apply_gauge_eq_ok_iff.2 ⟨finite, rfl⟩

theorem apply_of_run_upsertCounter {tables changed : Store} {name : String} {delta total : Count}
    (runs : (Statement.upsertCounter name delta).run tables = .ok (changed, total)) :
    tables.apply name (.counter delta) = .ok changed := by
  have means := mapError_run_upsertCounter tables name delta
  rw [runs] at means
  show (tables.addCounter name delta).map Prod.fst = .ok changed
  cases added : tables.addCounter name delta with
  | error cause =>
    rw [added] at means
    cases means
  | ok result =>
    rw [added] at means
    cases means
    rfl

theorem applyAll_single {tables changed : Store} {name : String} {value : Value}
    (applied : tables.apply name value = .ok changed) : tables.applyAll [(name, value)] = .ok changed :=
  Store.applyAll_cons_eq_ok_iff.2 ⟨changed, applied, rfl⟩

theorem apply_of_updateWithin {copy changed : Store} {update : String × Value} (isNumber : IsNumber update)
    (executed : (updateWithin copy update database).result = .ok changed) :
    copy.apply update.1 update.2 = .ok changed := by
  obtain ⟨name, value⟩ := update
  cases value with
  | gauge value =>
    obtain ⟨⟨changed, _⟩, answered, rfl, _⟩ := Action.exists_of_bind_pure_eq_ok Prod.fst executed
    exact apply_of_run_upsertGauge isNumber (Database.run_of_executeWithin answered)
  | counter delta =>
    obtain ⟨⟨changed, total⟩, answered, rfl, _⟩ := Action.exists_of_bind_pure_eq_ok Prod.fst executed
    exact apply_of_run_upsertCounter (Database.run_of_executeWithin answered)

theorem applyAll_of_updatesWithin {copy changed : Store} {updates : List (String × Value)}
    (areNumbers : ∀ update ∈ updates, IsNumber update)
    (executed : (updatesWithin copy updates database).result = .ok changed) :
    copy.applyAll updates = .ok changed := by
  induction updates generalizing copy database with
  | nil =>
    cases executed
    rfl
  | cons update updates inductionHypothesis =>
    cases first : (updateWithin copy update database).result with
    | error cause =>
      have failed : updatesWithin copy (update :: updates) database = _ := Action.bind_apply_error first
      rw [failed] at executed
      cases executed
    | ok next =>
      have went : updatesWithin copy (update :: updates) database = _ := Action.bind_apply_ok first
      rw [went] at executed
      exact Store.applyAll_cons_eq_ok_iff.2 ⟨next, apply_of_updateWithin (areNumbers update List.mem_cons_self)
        first, inductionHypothesis (fun other member => areNumbers other (List.mem_cons_of_mem _ member)) executed⟩

/-- A transaction up to its commit. -/
def uncommitted (begin : Action Database DatabaseError Store) (updates : List (String × Value)) :
    Action Database StorageError Store := do
  let copy ← begin.mapCause .database
  updatesWithin copy updates

/-- A transaction has its effect: all goes well up to the commit, and no fault keeps that from its effect. -/
def commits (begin : Action Database DatabaseError Store) (updates : List (String × Value))
    (database : Database) : Bool :=
  let reached := uncommitted begin updates database
  reached.result.isOk && reached.world.isEffective

theorem keepsTables_uncommitted (begins : Begins begin) (updates : List (String × Value)) :
    KeepsTables (uncommitted begin updates) := by
  have keeps : KeepsTables (begin.mapCause StorageError.database) := begins.keepsTables
  exact keeps.bind fun copy => keepsTables_updatesWithin copy updates

/-- What a commit would put in the place of the tables is what the updates make of them. -/
theorem applyAll_of_uncommitted (begins : Begins begin) {updates : List (String × Value)}
    (areNumbers : ∀ update ∈ updates, IsNumber update) {changed : Store}
    (succeeds : (uncommitted begin updates database).result = .ok changed) :
    database.tables.applyAll updates = .ok changed := by
  cases begun : (begin database).result with
  | error cause =>
    have failed : (begin.mapCause StorageError.database database).result = .error (.database cause) := by
      rw [Action.mapCause, begun]
      rfl
    have stopped : uncommitted begin updates database = _ := Action.bind_apply_error failed
    rw [stopped] at succeeds
    cases succeeds
  | ok copy =>
    have given : (begin.mapCause StorageError.database database).result = .ok copy := by
      rw [Action.mapCause, begun]
      rfl
    have went : uncommitted begin updates database = _ := Action.bind_apply_ok given
    rw [went] at succeeds
    rw [← begins.gives database copy begun]
    exact applyAll_of_updatesWithin areNumbers succeeds

/-- A transaction makes all of its updates or none, and then it fails. -/
theorem makesAllOrNone_transaction (begins : Begins begin) {updates : List (String × Value)}
    (areNumbers : ∀ update ∈ updates, IsNumber update) (database : Database) :
    MakesAllOrNone (transactionFrom begin updates) Database.tables (commits begin updates) updates database := by
  have parts : transactionFrom begin updates = uncommitted begin updates >>= fun changed =>
      (Database.commit changed).mapCause .database := Action.bind_bind _ _ _
  have keeps := keepsTables_uncommitted begins updates
  rw [parts]
  constructor
  · intro isMade
    obtain ⟨reaches, effective⟩ := Bool.and_eq_true_iff.1 isMade
    cases reached : (uncommitted begin updates database).result with
    | error cause =>
      rw [reached] at reaches
      cases reaches
    | ok changed =>
      rw [Action.bind_apply_ok reached, applyAll_of_uncommitted begins areNumbers reached]
      exact congrArg Except.ok (Database.commit_of_effective changed effective).symm
  · intro notMade
    cases reached : (uncommitted begin updates database).result with
    | error cause =>
      rw [Action.bind_apply_error reached]
      exact ⟨keeps database, cause, rfl⟩
    | ok changed =>
      have notEffective : (uncommitted begin updates database).world.isEffective = false := by
        have unmade : ((uncommitted begin updates database).result.isOk &&
          (uncommitted begin updates database).world.isEffective) = false := notMade
        rw [reached] at unmade
        exact unmade
      obtain ⟨unchanged, cause, fails⟩ := Database.commit_of_not_effective changed notEffective
      rw [Action.bind_apply_ok reached]
      refine ⟨unchanged.trans (keeps database), .database cause, ?_⟩
      exact congrArg (Except.mapError StorageError.database) fails

theorem makesAllOrNone_upsertGauge (name : String) {value : Binary64} (finite : value.isFinite = true)
    (database : Database) :
    MakesAllOrNone (execute (.upsertGauge name value)) Database.tables
      (Database.executes (.upsertGauge name value)) [(name, .gauge value)] database :=
  (Database.makesAllOrNone_execute (fun _ _ _ runs =>
    applyAll_single (apply_of_run_upsertGauge finite runs)) database).mapCause _

theorem makesAllOrNone_upsertCounter (name : String) (delta : Count) (database : Database) :
    MakesAllOrNone ((Database.execute (.upsertCounter name delta)).mapCause (counterError name))
      Database.tables (Database.executes (.upsertCounter name delta)) [(name, .counter delta)] database :=
  (Database.makesAllOrNone_execute (fun _ _ _ runs =>
    applyAll_single (apply_of_run_upsertCounter runs)) database).mapCause _

/-- A call that is retried, each of whose attempts makes all of the updates or none. -/
theorem retried_retrying {Result : Type} {operation : Action Database StorageError Result}
    {makes : Database → Bool} {updates : List (String × Value)}
    (each : ∀ database, MakesAllOrNone operation Database.tables makes updates database) (label : String)
    (database : Database) :
    ∃ starts, Retried (terms label) RetryPolicy.standard operation Database.tables makes updates database
      starts (retrying label operation database).result (retrying label operation database).world :=
  exists_retried (fun _ => True) (fun _ _ => rfl) (fun database _ => each database)
    (fun _ _ => trivial) _ trivial

/-- A batch is planned before anything is attempted. -/
theorem updateBatch_eq (begin : Action Database DatabaseError Store) (records : List Record) :
    (backendFrom begin).updateBatch records =
      (Action.report (Batch.planLog records) >>= fun _ =>
        Action.ofExcept ((Batch.plan records).mapError .validation) >>= fun updates =>
          retrying "batch update" (transactionFrom begin updates)) :=
  rfl

/-- An update, or a batch of updates, is attempted four times at most, and once more only after a failure that
concerns the connection. It has its whole effect once for every attempt that has committed, never a part of
it; if it succeeds, some attempt has. If no attempt has committed and failed, it has its effect once if it
succeeds and not at all if it fails. What is refused by itself is not attempted. -/
theorem retried_updates (begins : Begins begin) (database : Database) :
    (∀ name value, value.isFinite = true →
      let outcome := (backendFrom begin).updateGauge name value database
      ∃ starts, Retried (terms "update gauge") RetryPolicy.standard (execute (.upsertGauge name value))
        Database.tables (Database.executes (.upsertGauge name value)) [(name, .gauge value)] database starts
        outcome.result outcome.world) ∧
    (∀ name value, value.isFinite = false →
      let outcome := (backendFrom begin).updateGauge name value database
      outcome.result = .error (.validation (.invalidValue .gauge value.text)) ∧ outcome.world = database) ∧
    (∀ name delta,
      let outcome := (backendFrom begin).updateCounter name delta database
      ∃ starts, Retried (terms "update counter") RetryPolicy.standard
        ((Database.execute (.upsertCounter name delta)).mapCause (counterError name)) Database.tables
        (Database.executes (.upsertCounter name delta)) [(name, .counter delta)] database starts
        outcome.result outcome.world) ∧
    (∀ records updates, Batch.plan records = .ok updates →
      let outcome := (backendFrom begin).updateBatch records database
      ∃ starts, Retried (terms "batch update") RetryPolicy.standard (transactionFrom begin updates)
        Database.tables (commits begin updates) updates database starts outcome.result outcome.world) ∧
    (∀ records cause, Batch.plan records = .error cause →
      let outcome := (backendFrom begin).updateBatch records database
      outcome.result = .error (.validation cause) ∧ outcome.world = database) ∧
    RetryPolicy.standard.attempts = 4 ∧ ∀ cause, StorageError.isRetriable (.validation cause) = false := by
  refine ⟨?_, ?_, ?_, ?_, ?_, rfl, fun _ => rfl⟩
  · intro name value finite
    have accepted : (Action.ofExcept (value.checkGauge.mapError StorageError.validation) database).result =
        .ok () := by
      rw [Action.ofExcept_apply, Binary64.checkGauge, if_pos finite]
      rfl
    have went : (backendFrom begin).updateGauge name value database = _ := Action.bind_apply_ok accepted
    rw [went]
    exact retried_retrying (makesAllOrNone_upsertGauge name finite) _ database
  · intro name value notFinite
    have refused : (Action.ofExcept (value.checkGauge.mapError StorageError.validation) database).result =
        .error (.validation (.invalidValue .gauge value.text)) := by
      rw [Action.ofExcept_apply, Binary64.checkGauge, notFinite]
      rfl
    have stopped : (backendFrom begin).updateGauge name value database = _ := Action.bind_apply_error refused
    rw [stopped]
    exact ⟨rfl, rfl⟩
  · intro name delta
    exact retried_retrying (makesAllOrNone_upsertCounter name delta) _ database
  · intro records updates planned
    rw [updateBatch_eq, planned]
    exact retried_retrying (makesAllOrNone_transaction begins (isNumber_of_plan planned)) _ database
  · intro records cause refused
    rw [updateBatch_eq, refused]
    exact ⟨rfl, rfl⟩

/-- The first attempt commits and fails, the second one does not begin although there is a connection, and the
third one succeeds: the counter has grown twice. -/
theorem retried_updates_twice :
    let broken (takesEffect : Bool) : Fault := ⟨.reported (some "08006") "connection failure", takesEffect⟩
    let database := Database.fresh [] [none, none, some (broken true), some (broken false)]
    let delta : Count := ⟨2, by decide, by decide⟩
    let updates := [("PollCount", Value.counter delta)]
    let outcome := (backendFrom Database.beginBySending).updateBatch [.counter "PollCount" delta] database
    (outcome.world.tables.total "PollCount").toInt = 4 ∧
      ∃ starts : List Database, starts.countP (commits Database.beginBySending updates) = 2 ∧
        Retried (terms "batch update") RetryPolicy.standard
          (transactionFrom Database.beginBySending updates) Database.tables
          (commits Database.beginBySending updates) updates database starts (.ok ()) outcome.world := by
  intro broken database delta updates outcome
  have total : (outcome.world.tables.total "PollCount").toInt = 4 := by decide +kernel
  have succeeds : outcome.result = .ok () := by decide +kernel
  obtain ⟨_, _, _, batches, _⟩ := retried_updates Database.begins_beginBySending database
  obtain ⟨starts, retried⟩ := batches [.counter "PollCount" delta] updates (by decide)
  have grown := Store.total_applyAll_replicate "PollCount" retried.made
  have before : (database.tables.total "PollCount").toInt = 0 := by decide +kernel
  have each : Store.increments "PollCount" updates = 2 := by decide +kernel
  rw [total, before, each] at grown
  exact ⟨total, starts, by omega, succeeds ▸ retried⟩

end DatabaseStorage

end Telemetry
