import Mathlib.Order.Monotone.Basic
import Telemetry.Agent.Pool
import Telemetry.Collector.Basic
import Telemetry.Store.Saving

/-!
# Runs of machines

The pool of workers, the collector and the saving of snapshots are machines of one form: a step is possible
or not, and does something. `Run` is the relation between where a machine starts, what happens to it, what
it does, and where it ends. The function `run` of each machine computes it.
-/

namespace Telemetry

universe u v w

/-- A run of a machine: from one state, through events that do something each, to another state. -/
inductive Run {State : Type u} {Event : Type v} {Effect : Type w}
    (step : State → Event → Option (State × List Effect)) :
    State → List Event → List Effect → State → Prop
  | nil (state : State) : Run step state [] [] state
  | cons {state next final : State} {event : Event} {events : List Event} {effects later : List Effect}
    (first : step state event = some (next, effects)) (rest : Run step next events later final) :
    Run step state (event :: events) (effects ++ later) final

namespace Run

variable {State : Type u} {Event : Type v} {Effect : Type w}
  {step : State → Event → Option (State × List Effect)} {state final : State} {event : Event}
  {events earlier later : List Event} {effects : List Effect}

theorem cons_iff :
    Run step state (event :: events) effects final ↔
      ∃ next first rest, effects = first ++ rest ∧ step state event = some (next, first) ∧
        Run step next events rest final := by
  constructor
  · rintro ⟨⟩
    exact ⟨_, _, _, rfl, ‹_›, ‹_›⟩
  · rintro ⟨next, first, rest, rfl, stepped, ran⟩
    exact .cons stepped ran

/-- A function that takes one step after another computes the runs. -/
theorem iff_of_equations {run : State → List Event → Option (State × List Effect)}
    (atEnd : ∀ state, run state [] = some (state, []))
    (stepwise : ∀ state event events, run state (event :: events) =
      (step state event).bind fun (next, effects) =>
        (run next events).map fun (final, later) => (final, effects ++ later)) :
    run state events = some (final, effects) ↔ Run step state events effects final := by
  induction events generalizing state effects with
  | nil =>
    rw [atEnd]
    constructor
    · rintro ⟨⟩
      exact .nil _
    · rintro ⟨⟩
      rfl
  | cons event events inductionHypothesis =>
    rw [stepwise, cons_iff]
    constructor
    · intro ran
      obtain ⟨⟨next, first⟩, stepped, followed⟩ := Option.bind_eq_some_iff.1 ran
      obtain ⟨⟨reached, rest⟩, others, same⟩ := Option.map_eq_some_iff.1 followed
      cases same
      exact ⟨next, first, rest, rfl, stepped, inductionHypothesis.1 others⟩
    · rintro ⟨next, first, rest, rfl, stepped, ran⟩
      rw [stepped, Option.bind_some]
      dsimp only
      rw [inductionHypothesis.2 ran, Option.map_some]

theorem append_iff :
    Run step state (earlier ++ later) effects final ↔
      ∃ middle before after, effects = before ++ after ∧ Run step state earlier before middle ∧
        Run step middle later after final := by
  induction earlier generalizing state effects with
  | nil =>
    constructor
    · intro ran
      exact ⟨state, [], effects, rfl, .nil state, ran⟩
    · rintro ⟨_, _, _, rfl, ⟨⟩, ran⟩
      exact ran
  | cons event events inductionHypothesis =>
    rw [List.cons_append, cons_iff]
    constructor
    · rintro ⟨next, first, rest, rfl, stepped, ran⟩
      obtain ⟨middle, before, after, rfl, ran, others⟩ := inductionHypothesis.1 ran
      exact ⟨middle, first ++ before, after, (List.append_assoc _ _ _).symm, .cons stepped ran, others⟩
    · rintro ⟨middle, _, after, rfl, ran, others⟩
      obtain ⟨next, first, before, rfl, stepped, ran⟩ := cons_iff.1 ran
      exact ⟨next, first, before ++ after, List.append_assoc _ _ _, stepped,
        inductionHypothesis.2 ⟨middle, before, after, rfl, ran, others⟩⟩

/-- What every step keeps, of the state and of all that has happened up to it, every run keeps. -/
theorem preserves (ran : Run step state events effects final)
    (Holds : List Event → List Effect → State → Prop) (initially : Holds [] [] state)
    (stepwise : ∀ {before done current event next effects}, Holds before done current →
      step current event = some (next, effects) → Holds (before ++ [event]) (done ++ effects) next) :
    Holds events effects final := by
  have later {before done} (holds : Holds before done state) :
      Holds (before ++ events) (done ++ effects) final := by
    clear initially
    induction ran generalizing before done with
    | nil state =>
      rw [List.append_nil, List.append_nil]
      exact holds
    | cons first rest inductionHypothesis =>
      have reached := inductionHypothesis (stepwise holds first)
      rwa [List.append_assoc, List.append_assoc, List.singleton_append] at reached
  exact later initially

/-- The levels of a run that has a step in front of it. -/
def levelsFrom (level : Nat) (levels : Nat → Nat) : Nat → Nat
  | 0 => level
  | stop + 1 => levels stop

/-- Where every step leads from one level to one that is not lower, there is a level for each moment of a run,
and they never fall. -/
theorem exists_levels {Holds : Nat → List Effect → State → Prop}
    (stepwise : ∀ {level done current event next effects}, Holds level done current →
      step current event = some (next, effects) →
        ∃ higher, level ≤ higher ∧ Holds higher (done ++ effects) next)
    {level : Nat} {done : List Effect} (initially : Holds level done state) (events : List Event) :
    ∃ levels : Nat → Nat, Monotone levels ∧ levels 0 = level ∧ ∀ stop effects reached,
      Run step state (events.take stop) effects reached → Holds (levels stop) (done ++ effects) reached := by
  have atStart {level done state} (holds : Holds level done state) (effects reached)
      (ran : Run step state [] effects reached) : Holds level (done ++ effects) reached := by
    cases ran
    rw [List.append_nil]
    exact holds
  induction events generalizing state level done with
  | nil =>
    refine ⟨fun _ => level, monotone_const, rfl, fun stop effects reached ran => ?_⟩
    rw [List.take_nil] at ran
    exact atStart initially effects reached ran
  | cons event events inductionHypothesis =>
    cases stepped : step state event with
    | none =>
      refine ⟨fun _ => level, monotone_const, rfl, fun stop effects reached ran => ?_⟩
      cases stop with
      | zero => exact atStart initially effects reached ran
      | succ stop =>
        obtain ⟨_, _, _, _, possible, _⟩ := cons_iff.1 ran
        cases stepped.symm.trans possible
    | some outcome =>
      obtain ⟨next, first⟩ := outcome
      obtain ⟨higher, notLower, holds⟩ := stepwise initially stepped
      obtain ⟨levels, monotone, same, each⟩ := inductionHypothesis holds
      refine ⟨levelsFrom level levels, ?_, rfl, fun stop effects reached ran => ?_⟩
      · apply monotone_nat_of_le_succ
        rintro (_ | stop)
        · exact notLower.trans_eq same.symm
        · exact monotone (Nat.le_succ stop)
      · cases stop with
        | zero => exact atStart initially effects reached ran
        | succ stop =>
          obtain ⟨_, _, rest, rfl, possible, others⟩ := cons_iff.1 ran
          cases stepped.symm.trans possible
          rw [← List.append_assoc]
          exact each stop rest reached others

end Run

theorem Pool.run_eq_some_iff {pool final : Pool} {events : List PoolEvent} {effects : List PoolEffect} :
    pool.run events = some (final, effects) ↔ Run step pool events effects final :=
  Run.iff_of_equations (fun _ => rfl) fun _ _ _ => rfl

theorem Collector.run_eq_some_iff {collector final : Collector} {events : List CollectorEvent}
    {effects : List CollectorEffect} :
    collector.run events = some (final, effects) ↔ Run step collector events effects final :=
  Run.iff_of_equations (fun _ => rfl) fun _ _ _ => rfl

theorem Saving.run_eq_some_iff {saving final : Saving} {events : List SavingEvent}
    {effects : List SavingEffect} :
    saving.run events = some (final, effects) ↔ Run step saving events effects final :=
  Run.iff_of_equations (fun _ => rfl) fun _ _ _ => rfl

end Telemetry
