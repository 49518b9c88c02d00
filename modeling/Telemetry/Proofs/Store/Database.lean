import Telemetry.Store.Database
import Telemetry.Proofs.Effects

/-!
# What an action on a database comes to

Here every failure of a connection, statement or commit is one that may pass, and the statement or commit
that meets it has no effect. An action then does what it means for the tables, or it meets failures and
changes nothing: `Realizes` says so, with how many failures it takes at least. It holds of a sequence when
it holds of its parts, as long as only the last one changes the tables.
-/

namespace Telemetry

namespace Database

/-- All failures to come may pass and have no effect. -/
structure IsTransient (database : Database) : Prop where
  refusals : ∀ cause, some cause ∈ database.refusals → cause.isRetriable = true ∨ cause.isStarting = true
  faults : ∀ fault, some fault ∈ database.faults → fault.cause.isRetriable = true ∧ fault.takesEffect = false

/-- How many failures are still to come. -/
def failuresAhead (database : Database) : Nat :=
  database.refusals.countP Option.isSome + database.faults.countP Option.isSome

/-- So many failures at least have been met on the way from one state to another. -/
structure Met (count : Nat) (before after : Database) : Prop where
  transient : after.IsTransient
  fewer : after.failuresAhead + count ≤ before.failuresAhead

variable {count : Nat} {before middle after database : Database} {tables : Store}

theorem Met.refl (transient : database.IsTransient) : Met 0 database database :=
  ⟨transient, Nat.le_refl _⟩

theorem Met.trans {more : Nat} (first : Met count before middle) (second : Met more middle after) :
    Met (count + more) before after := by
  refine ⟨second.transient, ?_⟩
  have fewer := first.fewer
  have fewerStill := second.fewer
  omega

theorem Met.weaken {less : Nat} (met : Met count before after) (enough : less ≤ count) :
    Met less before after :=
  ⟨met.transient, Nat.le_trans (Nat.add_le_add_left enough _) met.fewer⟩

/-- Failures have nothing to do with the tables. -/
theorem Met.withTables (met : Met count before after) (tables : Store) :
    Met count before { after with tables } :=
  ⟨⟨met.transient.refusals, met.transient.faults⟩, met.fewer⟩

/-- What comes of an action on a database that has a meaning for its tables. -/
inductive Realized {Cause Result : Type} (count : Nat) (isRetriable : Cause → Bool)
    (meaning : Except Cause (Store × Result)) (database : Database)
    (outcome : Outcome Database (Except Cause Result)) : Prop
  | done {tables : Store} {result : Result} (means : meaning = .ok (tables, result))
    (answers : outcome.result = .ok result) (holds : outcome.world.tables = tables)
    (met : Met 0 database outcome.world)
  | refused {cause : Cause} (means : meaning = .error cause) (fails : outcome.result = .error cause)
    (holds : outcome.world.tables = database.tables) (met : Met 0 database outcome.world)
  /-- It has met failures and changed nothing. -/
  | gaveUp {cause : Cause} (fails : outcome.result = .error cause) (retriable : isRetriable cause = true)
    (holds : outcome.world.tables = database.tables) (met : Met count database outcome.world)

/-- The action does what it means for the tables, unless it meets so many failures. -/
def Realizes {Cause Result : Type} (count : Nat) (isRetriable : Cause → Bool)
    (action : Action Database Cause Result) (meaning : Store → Except Cause (Store × Result)) : Prop :=
  ∀ database : Database, database.IsTransient →
    Realized count isRetriable (meaning database.tables) database (action database)

theorem map_pair_eq_ok_iff {Cause Result : Type} {view : Except Cause Result} {tables final : Store}
    {result : Result} :
    (view.map fun result => (tables, result)) = .ok (final, result) ↔ view = .ok result ∧ tables = final := by
  cases view with
  | ok found => simp [Except.map, and_comm]
  | error cause => simp [Except.map]

theorem map_pair_eq_error_iff {Cause Result : Type} {view : Except Cause Result} {tables : Store}
    {cause : Cause} :
    (view.map fun result => (tables, result)) = .error cause ↔ view = .error cause := by
  cases view with
  | ok found => simp [Except.map]
  | error cause => simp [Except.map]

section Sequences

variable {Cause Other Result Next : Type} {isRetriable : Cause → Bool}
  {action : Action Database Cause Result} {next : Result → Action Database Cause Next}
  {meaning : Store → Except Cause (Store × Result)}

theorem Realizes.pure (result : Result) :
    Realizes count isRetriable (Pure.pure result) fun tables => .ok (tables, result) :=
  fun _ transient => .done rfl rfl rfl (.refl transient)

theorem Realizes.report (lines : List LogLine) :
    Realizes count isRetriable (Action.report lines) fun tables => .ok (tables, ()) :=
  fun _ transient => .done rfl rfl rfl (.refl transient)

theorem Realizes.ofExcept (result : Except Cause Result) :
    Realizes count isRetriable (Action.ofExcept result) fun tables =>
      result.map fun result => (tables, result) := by
  intro database transient
  cases result with
  | ok result => exact .done rfl rfl rfl (.refl transient)
  | error cause => exact .refused rfl rfl rfl (.refl transient)

/-- An action that only looks at the tables, and then another one. -/
theorem Realizes.bind {view : Store → Except Cause Result}
    {meaning : Result → Store → Except Cause (Store × Next)}
    (first : Realizes count isRetriable action fun tables => (view tables).map fun result => (tables, result))
    (second : ∀ tables result, view tables = .ok result →
      Realizes count isRetriable (next result) (meaning result)) :
    Realizes count isRetriable (action >>= next) fun tables =>
      (view tables).bind fun result => meaning result tables := by
  intro database transient
  cases first database transient with
  | @done tables result means answers holds met =>
    obtain ⟨seen, rfl⟩ := map_pair_eq_ok_iff.1 means
    have followed : (view database.tables).bind (fun result => meaning result database.tables) =
        meaning result (action database).world.tables := by
      rw [seen, holds]
      rfl
    rw [Action.bind_apply_ok answers]
    cases second database.tables result seen _ met.transient with
    | done means answers holds later =>
      exact .done (followed.trans means) answers holds (met.trans later)
    | refused means fails unchanged later =>
      exact .refused (followed.trans means) fails (unchanged.trans holds) (met.trans later)
    | gaveUp fails retriable unchanged later =>
      have all := met.trans later
      rw [Nat.zero_add] at all
      exact .gaveUp fails retriable (unchanged.trans holds) all
  | @refused cause means fails unchanged met =>
    have followed : (view database.tables).bind (fun result => meaning result database.tables) =
        .error cause := by
      rw [map_pair_eq_error_iff.1 means]
      rfl
    rw [Action.bind_apply_error fails]
    exact .refused followed rfl unchanged met
  | gaveUp fails retriable unchanged met =>
    rw [Action.bind_apply_error fails]
    exact .gaveUp rfl retriable unchanged met

/-- An action whose result is only put in other terms. -/
theorem Realizes.bind_pure (realizes : Realizes count isRetriable action meaning) (convert : Result → Next) :
    Realizes count isRetriable (action >>= fun result => Pure.pure (convert result)) fun tables =>
      (meaning tables).map fun (tables, result) => (tables, convert result) := by
  intro database transient
  cases realizes database transient with
  | done means answers holds met =>
    rw [Action.bind_apply_ok answers]
    exact .done (congrArg (Except.map _) means) rfl holds met
  | refused means fails unchanged met =>
    rw [Action.bind_apply_error fails]
    exact .refused (congrArg (Except.map _) means) rfl unchanged met
  | gaveUp fails retriable unchanged met =>
    rw [Action.bind_apply_error fails]
    exact .gaveUp rfl retriable unchanged met

theorem Realizes.congr {other : Store → Except Cause (Store × Result)}
    (realizes : Realizes count isRetriable action meaning) (same : ∀ tables, meaning tables = other tables) :
    Realizes count isRetriable action other :=
  funext same ▸ realizes

theorem Realizes.weaken {less : Nat} (realizes : Realizes count isRetriable action meaning)
    (enough : less ≤ count) : Realizes less isRetriable action meaning := by
  intro database transient
  cases realizes database transient with
  | done means answers holds met => exact .done means answers holds met
  | refused means fails unchanged met => exact .refused means fails unchanged met
  | gaveUp fails retriable unchanged met => exact .gaveUp fails retriable unchanged (met.weaken enough)

theorem Realizes.mapCause {isOtherRetriable : Other → Bool} {convert : Cause → Other}
    (realizes : Realizes count isRetriable action meaning)
    (converts : ∀ cause, isRetriable cause = true → isOtherRetriable (convert cause) = true) :
    Realizes count isOtherRetriable (action.mapCause convert) fun tables =>
      (meaning tables).mapError convert := by
  intro database transient
  cases realizes database transient with
  | done means answers holds met =>
    exact .done (congrArg (Except.mapError convert) means) (congrArg (Except.mapError convert) answers) holds
      met
  | refused means fails unchanged met =>
    exact .refused (congrArg (Except.mapError convert) means) (congrArg (Except.mapError convert) fails)
      unchanged met
  | gaveUp fails retriable unchanged met =>
    exact .gaveUp (congrArg (Except.mapError convert) fails) (converts _ retriable) unchanged met

end Sequences

/-! ## Connections -/

/-- The database after one entry of the script of its connections. -/
theorem met_refusal (transient : database.IsTransient) :
    Met (database.refusals.head?.join.isSome).toNat database
      { database with refusals := database.refusals.tail } := by
  refine ⟨⟨fun cause member => transient.refusals cause (List.mem_of_mem_tail member), transient.faults⟩, ?_⟩
  unfold failuresAhead
  cases database.refusals with
  | nil => simp
  | cons refusal rest =>
    cases refusal with
    | none => simp
    | some cause =>
      simp only [List.head?_cons, Option.join_some, Option.isSome_some, Bool.toNat_true, List.tail_cons,
        List.countP_cons_of_pos]
      omega

theorem realizes_connect_succ {attempts : Nat}
    (others : Realizes 0 DatabaseError.isRetriable (connect attempts) fun tables => .ok (tables, ())) :
    Realizes 1 DatabaseError.isRetriable (connect (attempts + 1)) fun tables => .ok (tables, ()) := by
  intro database transient
  have met := met_refusal transient
  unfold connect
  cases refusal : database.refusals.head?.join with
  | none =>
    rw [refusal] at met
    exact .done rfl rfl rfl ⟨⟨met.transient.refusals, met.transient.faults⟩, met.fewer⟩
  | some cause =>
    rw [refusal] at met
    have present : some cause ∈ database.refusals :=
      List.mem_of_mem_head? (Option.join_eq_some_iff.1 refusal)
    dsimp only
    split
    · cases others _ met.transient with
      | done means answers holds later =>
        cases means
        exact .done rfl answers holds ((met.trans later).weaken (Nat.zero_le _))
      | refused means => cases means
      | gaveUp fails retriable unchanged later => exact .gaveUp fails retriable unchanged (met.trans later)
    · next notStarting =>
      exact .gaveUp rfl ((transient.refusals cause present).resolve_right notStarting) rfl met

/-- To connect changes no tables. It may meet several failures, and it fails after one at least. -/
theorem realizes_connect (attempts : Nat) :
    Realizes 1 DatabaseError.isRetriable (connect (attempts + 1)) fun tables => .ok (tables, ()) := by
  induction attempts with
  | zero => exact realizes_connect_succ fun database transient => .gaveUp rfl rfl rfl (.refl transient)
  | succ attempts inductionHypothesis =>
    exact realizes_connect_succ (inductionHypothesis.weaken (Nat.zero_le 1))

theorem realizes_ensureConnected :
    Realizes 1 DatabaseError.isRetriable ensureConnected fun tables => .ok (tables, ()) := by
  intro database transient
  unfold ensureConnected
  split
  · exact .done rfl rfl rfl (.refl transient)
  · exact realizes_connect 10 database transient

/-- An action that is preceded by connecting. -/
theorem Realizes.connected {Result : Type} {action : Action Database DatabaseError Result}
    {meaning : Store → Except DatabaseError (Store × Result)}
    (realizes : Realizes 1 DatabaseError.isRetriable action meaning) :
    Realizes 1 DatabaseError.isRetriable (ensureConnected >>= fun _ => action) meaning := by
  have connects : Realizes 1 DatabaseError.isRetriable ensureConnected fun tables =>
      (Except.ok ()).map fun result => (tables, result) := realizes_ensureConnected
  have followed := connects.bind fun _ _ _ => realizes
  exact followed

/-! ## Statements -/

/-- A statement or commit that is sent meets no fault, or one that keeps it from having an effect. -/
theorem send_cases {sent : Database} {fault : Option Fault} {label : String} {arguments : List String}
    (transient : database.IsTransient) (sending : database.send label arguments = (sent, fault)) :
    sent.tables = database.tables ∧
      ((fault = none ∧ Met 0 database sent) ∨
        ∃ cause, fault = some ⟨cause, false⟩ ∧ cause.isRetriable = true ∧ Met 1 database sent) := by
  obtain ⟨tables, connected, refusals, faults, trace⟩ := database
  have later (connected : Bool) (trace : List (String × List String)) :
      IsTransient ⟨tables, connected, refusals, faults.tail, trace⟩ :=
    ⟨transient.refusals, fun fault member => transient.faults fault (List.mem_of_mem_tail member)⟩
  cases faults with
  | nil =>
    cases sending
    exact ⟨rfl, .inl ⟨rfl, later _ _, Nat.le_refl _⟩⟩
  | cons first rest =>
    cases first with
    | none =>
      cases sending
      exact ⟨rfl, .inl ⟨rfl, later _ _, by simp [failuresAhead]⟩⟩
    | some fault =>
      obtain ⟨cause, takesEffect⟩ := fault
      obtain ⟨retriable, noEffect⟩ := transient.faults ⟨cause, takesEffect⟩ List.mem_cons_self
      cases noEffect
      cases sending
      have oneMore : (some (Fault.mk cause false) :: rest).countP Option.isSome =
          rest.countP Option.isSome + 1 := List.countP_cons_of_pos rfl
      have fewer : refusals.countP Option.isSome + rest.countP Option.isSome + 1 ≤
          refusals.countP Option.isSome + (some (Fault.mk cause false) :: rest).countP Option.isSome := by
        omega
      exact ⟨rfl, .inr ⟨cause, rfl, retriable, later _ _, fewer⟩⟩

/-- A fault without effect leaves the tables as they are. -/
theorem outcome_of_fault {Answer : Type} (tables : Store) (statement : Statement Answer)
    (cause : DatabaseError) :
    outcome tables statement (some ⟨cause, false⟩) = (tables, .error cause) := by
  unfold outcome
  cases statement.run tables <;> rfl

theorem realizes_execute {Answer : Type} (statement : Statement Answer) :
    Realizes 1 DatabaseError.isRetriable (execute statement) statement.run := by
  apply Realizes.connected
  intro database transient
  dsimp only
  cases sending : database.send statement.label statement.arguments with
  | mk sent fault =>
    obtain ⟨_, ⟨rfl, met⟩ | ⟨cause, rfl, retriable, met⟩⟩ := send_cases transient sending
    · cases ran : statement.run database.tables with
      | ok changed =>
        obtain ⟨tables, answer⟩ := changed
        simp only [outcome, ran]
        exact .done rfl rfl rfl (met.withTables tables)
      | error cause =>
        simp only [outcome, ran]
        exact .refused rfl rfl rfl (met.withTables database.tables)
    · rw [outcome_of_fault]
      exact .gaveUp rfl retriable rfl (met.withTables database.tables)

theorem realizes_executeWithin {Answer : Type} (copy : Store) (statement : Statement Answer) :
    Realizes 1 DatabaseError.isRetriable (executeWithin copy statement) fun tables =>
      (statement.run copy).map fun changed => (tables, changed) := by
  intro database transient
  unfold executeWithin
  cases sending : database.send statement.label statement.arguments with
  | mk sent fault =>
    obtain ⟨same, ⟨rfl, met⟩ | ⟨cause, rfl, retriable, met⟩⟩ := send_cases transient sending
    · cases ran : statement.run copy with
      | ok changed =>
        simp only [outcome, ran]
        exact .done rfl rfl same met
      | error cause =>
        simp only [outcome, ran]
        exact .refused rfl rfl same met
    · simp only [outcome_of_fault]
      exact .gaveUp rfl retriable same met

/-- A transaction begins with the tables as they are, unless it meets a failure. -/
def BeginsUnlessFailing (begin : Action Database DatabaseError Store) : Prop :=
  Realizes 1 DatabaseError.isRetriable begin fun tables => .ok (tables, tables)

theorem beginsUnlessFailing_begin : BeginsUnlessFailing begin := by
  apply Realizes.connected
  intro database transient
  exact .done rfl rfl rfl (.refl transient)

/-- A transaction that is begun by a statement, which may meet a fault as any other. -/
def beginBySending : Action Database DatabaseError Store := do
  ensureConnected
  fun database =>
    let (sent, fault) := database.send "begin" []
    match fault with
    | none => ⟨.ok database.tables, sent, []⟩
    | some fault => ⟨.error fault.cause, sent, []⟩

theorem beginsUnlessFailing_beginBySending : BeginsUnlessFailing beginBySending := by
  apply Realizes.connected
  intro database transient
  dsimp only
  cases sending : database.send "begin" [] with
  | mk sent fault =>
    obtain ⟨same, ⟨rfl, met⟩ | ⟨cause, rfl, retriable, met⟩⟩ := send_cases transient sending
    · exact .done rfl rfl same met
    · exact .gaveUp rfl retriable same met

theorem realizes_commit (copy : Store) :
    Realizes 1 DatabaseError.isRetriable (commit copy) fun _ => .ok (copy, ()) := by
  intro database transient
  unfold commit
  cases sending : database.send "commit" [] with
  | mk sent fault =>
    obtain ⟨same, ⟨rfl, met⟩ | ⟨cause, rfl, retriable, met⟩⟩ := send_cases transient sending
    · exact .done rfl rfl rfl (met.withTables copy)
    · exact .gaveUp rfl retriable same met

end Database

end Telemetry
