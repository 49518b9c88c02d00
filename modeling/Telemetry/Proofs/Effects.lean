import Telemetry.Action

/-!
# What an action may leave behind

Three properties of actions that hold of a sequence when they hold of its parts: to look only, to do
nothing when failing, and to fail for causes of a certain kind only. Before them, what is known when checks
that come one after another have succeeded or failed.
-/

namespace Telemetry

/-! ## Checks one after another -/

section

variable {Cause Result Next : Type}

theorem bind_eq_ok {first : Except Cause Result} {next : Result → Except Cause Next} {done : Next}
    (succeeds : (first >>= next) = .ok done) :
    ∃ result, first = .ok result ∧ next result = .ok done := by
  cases first with
  | error cause => cases succeeds
  | ok result => exact ⟨result, rfl, succeeds⟩

theorem map_eq_ok {first : Except Cause Result} {turn : Result → Next} {done : Next}
    (succeeds : first.map turn = .ok done) : ∃ result, first = .ok result ∧ turn result = done := by
  cases first with
  | error cause => cases succeeds
  | ok result =>
    cases succeeds
    exact ⟨result, rfl, rfl⟩

theorem bind_eq_error {first : Except Cause Result} {next : Result → Except Cause Next} {cause : Cause}
    (fails : (first >>= next) = .error cause) :
    first = .error cause ∨ ∃ result, next result = .error cause := by
  cases first with
  | error other =>
    cases fails
    exact .inl rfl
  | ok result => exact .inr ⟨result, fails⟩

theorem map_eq_error {outcome : Except Cause Result} {next : Result → Next} {cause : Cause}
    (fails : outcome.map next = .error cause) : outcome = .error cause := by
  cases outcome with
  | error other =>
    cases fails
    rfl
  | ok result => cases fails

end

namespace Action

variable {World Cause Other Result Next : Type}

/-- The world after the action is the one before. -/
def ReadsOnly (action : Action World Cause Result) : Prop :=
  ∀ world, (action world).world = world

/-- When the action fails, the world after it is the one before. -/
def AllOrNothing (action : Action World Cause Result) : Prop :=
  ∀ world cause, (action world).result = .error cause → (action world).world = world

/-- When the action fails, its cause is of a certain kind. -/
def FailsOnly (kind : Cause → Prop) (action : Action World Cause Result) : Prop :=
  ∀ world cause, (action world).result = .error cause → kind cause

theorem ReadsOnly.allOrNothing {action : Action World Cause Result} (readsOnly : action.ReadsOnly) :
    action.AllOrNothing :=
  fun world _ _ => readsOnly world

/-! ## Looking only -/

theorem ReadsOnly.pure (result : Result) :
    (Pure.pure result : Action World Cause Result).ReadsOnly :=
  fun _ => rfl

theorem ReadsOnly.bind {action : Action World Cause Result}
    {next : Result → Action World Cause Next} (first : action.ReadsOnly)
    (second : ∀ result, (next result).ReadsOnly) : (action >>= next).ReadsOnly := by
  intro world
  cases outcome : (action world).result with
  | error cause => rw [bind_apply_error outcome, first world]
  | ok result => rw [bind_apply_ok outcome, second result, first world]

/-- After an action that gives a result and logs nothing, the next one goes on from there. -/
theorem bind_apply_of_eq_ok {action : Action World Cause Result} {next : Result → Action World Cause Next}
    {world after : World} {result : Result} (gives : action world = ⟨.ok result, after, []⟩) :
    (action >>= next) world = next result after := by
  have succeeds : (action world).result = .ok result := by rw [gives]
  rw [bind_apply_ok succeeds, gives]
  rfl

theorem ReadsOnly.mapCause {action : Action World Cause Result} (readsOnly : action.ReadsOnly)
    (convert : Cause → Other) : (action.mapCause convert).ReadsOnly :=
  fun world => readsOnly world

theorem ReadsOnly.fail (cause : Cause) : (fail cause : Action World Cause Result).ReadsOnly :=
  fun _ => rfl

theorem ReadsOnly.ofExcept (result : Except Cause Result) :
    (ofExcept result : Action World Cause Result).ReadsOnly :=
  fun _ => rfl

/-! ## All or nothing -/

theorem AllOrNothing.bind_pure {action : Action World Cause Result}
    (allOrNothing : action.AllOrNothing) (convert : Result → Next) :
    (action >>= fun result => Pure.pure (convert result)).AllOrNothing := by
  intro world cause fails
  cases outcome : (action world).result with
  | error other =>
    rw [bind_apply_error outcome]
    exact allOrNothing world other outcome
  | ok result =>
    rw [bind_apply_ok outcome] at fails
    cases fails

theorem AllOrNothing.mapCause {action : Action World Cause Result}
    (allOrNothing : action.AllOrNothing) (convert : Cause → Other) :
    (action.mapCause convert).AllOrNothing := by
  intro world cause fails
  cases outcome : (action world).result with
  | error other => exact allOrNothing world other outcome
  | ok result => simp [Action.mapCause, outcome] at fails

/-! ## Causes of failure -/

theorem FailsOnly.pure (kind : Cause → Prop) (result : Result) :
    (Pure.pure result : Action World Cause Result).FailsOnly kind := by
  intro world cause fails
  cases fails

theorem FailsOnly.bind {kind : Cause → Prop} {action : Action World Cause Result}
    {next : Result → Action World Cause Next} (first : action.FailsOnly kind)
    (second : ∀ result, (next result).FailsOnly kind) : (action >>= next).FailsOnly kind := by
  intro world cause fails
  cases outcome : (action world).result with
  | error other =>
    rw [bind_apply_error outcome] at fails
    cases fails
    exact first world cause outcome
  | ok result =>
    rw [bind_apply_ok outcome] at fails
    exact second result _ cause fails

theorem FailsOnly.mapCause {kind : Cause → Prop} {otherKind : Other → Prop}
    {action : Action World Cause Result} {convert : Cause → Other} (failsOnly : action.FailsOnly kind)
    (converts : ∀ cause, kind cause → otherKind (convert cause)) :
    (action.mapCause convert).FailsOnly otherKind := by
  intro world cause fails
  cases outcome : (action world).result with
  | error other =>
    simp only [Action.mapCause, outcome, Action.mapError_error, Except.error.injEq] at fails
    exact fails ▸ converts other (failsOnly world other outcome)
  | ok result => simp [Action.mapCause, outcome] at fails

theorem FailsOnly.fail {kind : Cause → Prop} {cause : Cause} (isKind : kind cause) :
    (fail cause : Action World Cause Result).FailsOnly kind := by
  intro world other fails
  cases fails
  exact isKind

theorem FailsOnly.ofExcept {kind : Cause → Prop} {result : Except Cause Result}
    (isKind : ∀ cause, result = .error cause → kind cause) :
    (ofExcept result : Action World Cause Result).FailsOnly kind :=
  fun _ cause fails => isKind cause fails

end Action

end Telemetry
