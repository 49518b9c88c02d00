import Telemetry.Log

/-!
# Actions

An action runs in a world: a memory, a disk, a database. It gives a result or a cause of failure, leaves
a world behind, and logs lines. What happened before a failure stays: the world and the lines are those
of the point where it failed.
-/

namespace Telemetry

/-- What a run of an action leaves: its result, the world, and the lines logged, in order. -/
structure Outcome (World Result : Type) where
  result : Result
  world : World
  log : List LogLine

/-- A step of a program in a world that may fail with a cause. -/
def Action (World Cause Result : Type) : Type :=
  World → Outcome World (Except Cause Result)

namespace Action

variable {World Cause Result Next : Type}

/-- Gives a result and does nothing else. -/
def done (result : Result) : Action World Cause Result :=
  fun world => ⟨.ok result, world, []⟩

/-- Fails and does nothing else. -/
def fail (cause : Cause) : Action World Cause Result :=
  fun world => ⟨.error cause, world, []⟩

/-- Gives a result or fails, and does nothing else. -/
def ofExcept (result : Except Cause Result) : Action World Cause Result :=
  fun world => ⟨result, world, []⟩

/-- Logs lines. -/
def report (lines : List LogLine) : Action World Cause Unit :=
  fun world => ⟨.ok (), world, lines⟩

/-- Goes on with the result of an action, unless it failed. -/
def andThen (action : Action World Cause Result) (next : Result → Action World Cause Next) :
    Action World Cause Next :=
  fun world =>
    let first := action world
    match first.result with
    | .ok result =>
      let second := next result first.world
      ⟨second.result, second.world, first.log ++ second.log⟩
    | .error cause => ⟨.error cause, first.world, first.log⟩

instance : Monad (Action World Cause) where
  pure := done
  bind := andThen

/-- The same action with its cause of failure in other terms. -/
def mapCause {Other : Type} (convert : Cause → Other) (action : Action World Cause Result) :
    Action World Other Result :=
  fun world =>
    let outcome := action world
    ⟨outcome.result.mapError convert, outcome.world, outcome.log⟩

@[simp]
theorem mapError_ok {Other : Type} (convert : Cause → Other) (result : Result) :
    (Except.ok result).mapError convert = .ok result := rfl

@[simp]
theorem mapError_error {Other : Type} (convert : Cause → Other) (cause : Cause) :
    (Except.error cause : Except Cause Result).mapError convert = .error (convert cause) := rfl

@[simp]
theorem pure_apply (result : Result) (world : World) :
    (pure result : Action World Cause Result) world = ⟨.ok result, world, []⟩ := rfl

@[simp]
theorem fail_apply (cause : Cause) (world : World) :
    (fail cause : Action World Cause Result) world = ⟨.error cause, world, []⟩ := rfl

@[simp]
theorem ofExcept_apply (result : Except Cause Result) (world : World) :
    (ofExcept result : Action World Cause Result) world = ⟨result, world, []⟩ := rfl

theorem bind_apply_ok {action : Action World Cause Result} {next : Result → Action World Cause Next}
    {world : World} {result : Result} (succeeds : (action world).result = .ok result) :
    (action >>= next) world =
      ⟨(next result (action world).world).result, (next result (action world).world).world,
        (action world).log ++ (next result (action world).world).log⟩ := by
  show andThen action next world = _
  simp only [andThen, succeeds]

theorem bind_apply_error {action : Action World Cause Result}
    {next : Result → Action World Cause Next} {world : World} {cause : Cause}
    (fails : (action world).result = .error cause) :
    (action >>= next) world = ⟨.error cause, (action world).world, (action world).log⟩ := by
  show andThen action next world = _
  simp only [andThen, fails]

end Action

end Telemetry
