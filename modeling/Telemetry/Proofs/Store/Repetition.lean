import Telemetry.Proofs.Retry
import Telemetry.Proofs.Store.Replay

/-!
# Updates that are made more than once

An attempt at some updates makes all of them, or it fails and makes none. It may also make them and fail, and
then another attempt makes them again. So after a run of attempts the store is what the updates make of it
when they are made as often as attempts have made them, whatever the attempts have reported. Gauges do not
tell how often that was, as long as it was at all; counters do.
-/

namespace Telemetry

namespace Store

variable {store final : Store} {updates : List (String × Value)} {count : Nat}

theorem applyAll_replicate_succ (store : Store) (updates : List (String × Value)) (count : Nat) :
    store.applyAll (List.replicate (count + 1) updates).flatten =
      (store.applyAll updates).bind fun next => next.applyAll (List.replicate count updates).flatten := by
  rw [List.replicate_succ, List.flatten_cons, applyAll_append]

theorem increments_replicate (name : String) (updates : List (String × Value)) (count : Nat) :
    increments name (List.replicate count updates).flatten = count * increments name updates := by
  induction count with
  | zero => simp
  | succ count inductionHypothesis =>
    rw [List.replicate_succ, List.flatten_cons, increments_append, inductionHypothesis]
    rw [Nat.cast_succ, Int.add_mul, Int.one_mul, Int.add_comm]

/-- What can be made more than once can be made once. -/
theorem exists_applyAll_of_replicate (positive : 1 ≤ count)
    (applied : store.applyAll (List.replicate count updates).flatten = .ok final) :
    ∃ once, store.applyAll updates = .ok once := by
  obtain ⟨count, rfl⟩ := Nat.exists_eq_add_of_le' positive
  rw [applyAll_replicate_succ] at applied
  cases first : store.applyAll updates with
  | ok once => exact ⟨once, rfl⟩
  | error cause =>
    rw [first] at applied
    cases applied

/-- To make updates again does not change the gauges. -/
theorem gauges_applyAll_replicate {once : Store} (positive : 1 ≤ count)
    (applied : store.applyAll (List.replicate count updates).flatten = .ok final)
    (appliedOnce : store.applyAll updates = .ok once) : final.gauges = once.gauges := by
  induction count generalizing store once with
  | zero => cases positive
  | succ count inductionHypothesis =>
    rw [applyAll_replicate_succ, appliedOnce] at applied
    cases count with
    | zero =>
      cases applied
      rfl
    | succ count =>
      have again : once.applyAll (List.replicate (count + 1) updates).flatten = .ok final := applied
      obtain ⟨twice, appliedTwice⟩ := exists_applyAll_of_replicate (Nat.le_add_left 1 count) again
      rw [inductionHypothesis (Nat.le_add_left 1 count) again appliedTwice]
      apply Roster.ext_get?
      intro name
      rw [get?_gauges_applyAll name appliedTwice, get?_gauges_applyAll name appliedOnce]
      cases lastReading? name updates <;> rfl

/-- The total of a counter grows with every time that updates are made. -/
theorem total_applyAll_replicate (name : String)
    (applied : store.applyAll (List.replicate count updates).flatten = .ok final) :
    (final.total name).toInt = (store.total name).toInt + count * increments name updates := by
  rw [total_applyAll name applied, increments_replicate]

end Store

variable {World Cause Result : Type} {terms : RetryTerms World Cause} {policy : RetryPolicy}
  {attempt : Action World Cause Result} {view : World → Store} {makes : World → Bool}
  {updates : List (String × Value)}

/-- An attempt at some updates in a world: it makes all of them, or it fails and makes none. -/
structure MakesAllOrNone (attempt : Action World Cause Result) (view : World → Store) (makes : World → Bool)
    (updates : List (String × Value)) (world : World) : Prop where
  all : makes world = true → (view world).applyAll updates = .ok (view (attempt world).world)
  none : makes world = false →
    view (attempt world).world = view world ∧ ∃ cause, (attempt world).result = .error cause

namespace MakesAllOrNone

variable {world : World}

theorem mapCause {Other : Type} (each : MakesAllOrNone attempt view makes updates world)
    (convert : Cause → Other) : MakesAllOrNone (attempt.mapCause convert) view makes updates world := by
  refine ⟨each.all, fun isUnmade => ?_⟩
  obtain ⟨unchanged, cause, fails⟩ := each.none isUnmade
  exact ⟨unchanged, convert cause, congrArg (Except.mapError convert) fails⟩

/-- An attempt that succeeds makes the updates. -/
theorem made_of_ok {result : Result} (each : MakesAllOrNone attempt view makes updates world)
    (succeeds : (attempt world).result = .ok result) : makes world = true := by
  by_contra isUnmade
  obtain ⟨_, cause, fails⟩ := each.none (eq_false_of_ne_true isUnmade)
  cases fails.symm.trans succeeds

end MakesAllOrNone

/-- What a run of attempts at some updates comes to, from the worlds that the attempts start in. -/
structure Retried (terms : RetryTerms World Cause) (policy : RetryPolicy) (attempt : Action World Cause Result)
    (view : World → Store) (makes : World → Bool) (updates : List (String × Value)) (before : World)
    (starts : List World) (outcome : Except Cause Result) (after : World) : Prop where
  attempts : terms.Attempts attempt policy.first policy.later before starts outcome after
  few : starts.length ≤ policy.attempts
  /-- The attempts go on while they fail in a way that may pass. -/
  goesOn : ∀ start ∈ starts.dropLast,
    ∃ cause, (attempt start).result = .error cause ∧ terms.isRetriable cause = true
  last : ∃ start, starts.getLast? = some start ∧ (attempt start).result = outcome
  /-- They stop at a failure that may pass only when none is left. -/
  givesUp : ∀ cause, outcome = .error cause → terms.isRetriable cause = true →
    starts.length = policy.attempts
  /-- The updates have been made once for every attempt that made them. -/
  made : (view before).applyAll (List.replicate (starts.countP makes) updates).flatten = .ok (view after)
  succeeds : ∀ result, outcome = .ok result → 1 ≤ starts.countP makes
  /-- Unless an attempt has made the updates and failed, the outcome tells whether they have been made. -/
  tells : (∀ start ∈ starts, makes start = true → ∃ result, (attempt start).result = .ok result) →
    (∀ result, outcome = .ok result → starts.countP makes = 1) ∧
      ∀ cause, outcome = .error cause → starts.countP makes = 0

namespace RetryTerms.Attempts

variable {delay : Nat} {later : List Nat} {world : World} {starts : List World}
  {outcome : Except Cause Result} {final : World}

/-- Each attempt that makes the updates makes them once more. -/
theorem applyAll (attempts : terms.Attempts attempt delay later world starts outcome final)
    (waits : ∀ delay world, terms.wait delay world = world)
    (each : ∀ start ∈ starts, MakesAllOrNone attempt view makes updates start) :
    (view world).applyAll (List.replicate (starts.countP makes) updates).flatten = .ok (view final) := by
  induction attempts with
  | @last delay later world stops =>
    rw [waits] at each ⊢
    have only := each world List.mem_cons_self
    cases isMade : makes world with
    | true =>
      rw [List.countP_singleton, if_pos isMade, List.replicate_one, List.flatten_singleton, only.all isMade]
    | false =>
      rw [List.countP_singleton, isMade, (only.none isMade).1]
      rfl
  | @next delay next later world final starts outcome cause fails retriable others inductionHypothesis =>
    rw [waits] at each inductionHypothesis ⊢
    have first := each world List.mem_cons_self
    have rest := inductionHypothesis fun start member => each start (List.mem_cons_of_mem _ member)
    cases isMade : makes world with
    | true =>
      rw [List.countP_cons_of_pos isMade, Store.applyAll_replicate_succ, first.all isMade]
      exact rest
    | false =>
      rw [List.countP_cons_of_neg (by rw [isMade]; exact Bool.false_ne_true), ← (first.none isMade).1]
      exact rest

/-- If the attempts that make the updates succeed, those before the last one have not made them. -/
theorem countP_eq (attempts : terms.Attempts attempt delay later world starts outcome final)
    (each : ∀ start ∈ starts, MakesAllOrNone attempt view makes updates start)
    (succeed : ∀ start ∈ starts, makes start = true → ∃ result, (attempt start).result = .ok result) :
    (∀ result, outcome = .ok result → starts.countP makes = 1) ∧
      ∀ cause, outcome = .error cause → starts.countP makes = 0 := by
  have unmade {start : World} {cause : Cause} (member : start ∈ starts)
      (fails : (attempt start).result = .error cause) : ¬makes start = true := by
    intro isMade
    obtain ⟨result, succeeds⟩ := succeed start member isMade
    cases fails.symm.trans succeeds
  induction attempts with
  | last =>
    constructor
    · intro result succeeds
      rw [List.countP_singleton, if_pos ((each _ List.mem_cons_self).made_of_ok succeeds)]
    · intro cause fails
      rw [List.countP_singleton, if_neg (unmade List.mem_cons_self fails)]
  | next fails retriable others inductionHypothesis =>
    rw [List.countP_cons_of_neg (unmade List.mem_cons_self fails)]
    exact inductionHypothesis (fun start member => each start (List.mem_cons_of_mem _ member))
      (fun start member => succeed start (List.mem_cons_of_mem _ member))
      (fun member => unmade (List.mem_cons_of_mem _ member))

end RetryTerms.Attempts

/-- A run of attempts, each of which makes all of the updates or none as long as something holds that no
attempt changes. -/
theorem exists_retried (holds : World → Prop) (waits : ∀ delay world, terms.wait delay world = world)
    (each : ∀ world, holds world → MakesAllOrNone attempt view makes updates world)
    (keeps : ∀ world, holds world → holds (attempt world).world) (policy : RetryPolicy) {before : World}
    (begins : holds before) :
    ∃ starts, Retried terms policy attempt view makes updates before starts
      (terms.run policy attempt before).result (terms.run policy attempt before).world := by
  obtain ⟨starts, attempts⟩ := terms.exists_attempts attempt 1 policy.attempts policy.first policy.later before
  have eachStart : ∀ start ∈ starts, MakesAllOrNone attempt view makes updates start := fun start member =>
    each start (attempts.forall_mem waits keeps begins start member)
  obtain ⟨start, isLast, result, world⟩ := attempts.exists_last
  refine ⟨starts, attempts, attempts.length_le, fun start => attempts.fails_of_mem_dropLast,
    ⟨start, isLast, result⟩, fun cause => attempts.length_of_retriable, attempts.applyAll waits eachStart, ?_,
    attempts.countP_eq eachStart⟩
  intro done succeeds
  have member : start ∈ starts := List.mem_of_getLast? isLast
  exact List.countP_pos_iff.2 ⟨start, member, (eachStart start member).made_of_ok (result.trans succeeds)⟩

end Telemetry
