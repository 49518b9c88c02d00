import Mathlib.Data.ENat.Lattice
import Telemetry.Proofs.Retry

/-!
# Attempts on schedule

The outcomes of an operation are laid down, call by call without end, and every wait and every call is taken
down. Then it can be read off how often an operation is called under a policy: until a call settles it, by a
success or by a failure for good, but no more often than there are delays. Before each call stands the delay
with its number and nothing else, and the log has a line for each failure that may pass. It is a log of warnings
and errors: that a wait begins is said for debugging only, and is left out.
-/

namespace Telemetry

/-- What happens in the course of attempts, as it is taken down. -/
inductive RetryEvent
  | wait (delay : Nat)
  | call
  deriving DecidableEq, Repr

namespace RetryEvent

/-- How long an event takes. -/
def time : RetryEvent → Nat
  | wait delay => delay
  | call => 0

/-- The wait for some time, if any. -/
def waits (delay : Nat) : List RetryEvent :=
  if delay = 0 then [] else [wait delay]

/-- A wait and a call. -/
def attempt (delay : Nat) : List RetryEvent :=
  waits delay ++ [call]

@[simp]
theorem count_waits (delay : Nat) : (waits delay).count call = 0 := by
  unfold waits
  split <;> rfl

@[simp]
theorem count_attempt (delay : Nat) : (attempt delay).count call = 1 := by
  simp [attempt]

@[simp]
theorem sum_time_attempt (delay : Nat) : ((attempt delay).map time).sum = delay := by
  by_cases zero : delay = 0 <;> simp [attempt, waits, zero, time]

theorem count_flatMap_attempt (delays : List Nat) : (delays.flatMap attempt).count call = delays.length := by
  induction delays with
  | nil => rfl
  | cons delay delays inductionHypothesis =>
    rw [List.flatMap_cons, List.count_append, inductionHypothesis, count_attempt, List.length_cons, Nat.add_comm]

theorem sum_time_flatMap_attempt (delays : List Nat) :
    ((delays.flatMap attempt).map time).sum = delays.sum := by
  induction delays with
  | nil => rfl
  | cons delay delays inductionHypothesis =>
    rw [List.flatMap_cons, List.map_append, List.sum_append, inductionHypothesis, sum_time_attempt, List.sum_cons]

end RetryEvent

namespace RetryTerms

variable {World Cause Result : Type}

/-- Terms under which waits are taken down. -/
def recording (label : String) (isRetriable : Cause → Bool) (message : Cause → String) :
    RetryTerms (List RetryEvent) Cause where
  label := label
  isRetriable := isRetriable
  message := message
  wait := fun delay events => events ++ RetryEvent.waits delay

/-- The operation with the given outcomes. A call takes itself down and gives the next outcome. -/
def ofOutcomes (outcomes : Nat → Except Cause Result) : Action (List RetryEvent) Cause Result :=
  fun events => ⟨outcomes (events.count .call), events ++ [.call], []⟩

/-- No other attempt gets past an outcome: it is a success or a failure for good. -/
def Settles (terms : RetryTerms World Cause) (outcome : Except Cause Result) : Prop :=
  ∀ cause, outcome = .error cause → terms.isRetriable cause = false

theorem not_settles_iff {terms : RetryTerms World Cause} {outcome : Except Cause Result} :
    ¬terms.Settles outcome ↔ ∃ cause, outcome = .error cause ∧ terms.isRetriable cause = true := by
  simp [Settles]

/-- The number of the first call that settles an operation, counted from one; infinite if there is none. -/
noncomputable def settlingCall (terms : RetryTerms World Cause) (outcomes : Nat → Except Cause Result) : ℕ∞ :=
  sInf {number | ∃ place : ℕ, terms.Settles (outcomes place) ∧ number = (place + 1 : ℕ)}

/-- The lines about failures that are each followed by another attempt, the first one with the given number. -/
def failedLines (terms : RetryTerms World Cause) (total : Nat) : Nat → List Cause → List LogLine
  | _, [] => []
  | number, cause :: causes => terms.failedLine number total cause :: terms.failedLines total (number + 1) causes

theorem lastLines_of_settles {terms : RetryTerms World Cause} {outcome : Except Cause Result}
    (settles : terms.Settles outcome) (total : Nat) : terms.lastLines total outcome = [] := by
  cases outcome with
  | ok result => rfl
  | error cause => exact if_neg (by rw [settles cause rfl]; exact Bool.false_ne_true)

/-! ## Courses -/

/-- What the attempts after some calls come to: they fail in a way that may pass with some causes, and then there
is a last one. -/
structure Course (terms : RetryTerms (List RetryEvent) Cause) (outcomes : Nat → Except Cause Result)
    (started total : Nat) (delays : List Nat) (before : List RetryEvent) (failures : List Cause)
    (ran : Outcome (List RetryEvent) (Except Cause Result)) : Prop where
  fails : ∀ place (below : place < failures.length),
    outcomes (started + place) = .error failures[place] ∧ terms.isRetriable failures[place] = true
  few : failures.length + 1 ≤ delays.length
  ends : terms.Settles (outcomes (started + failures.length)) ∨ failures.length + 1 = delays.length
  result : ran.result = outcomes (started + failures.length)
  events : ran.world = before ++ (delays.take (failures.length + 1)).flatMap RetryEvent.attempt
  log : ran.log = terms.failedLines total (started + 1) failures ++
    terms.lastLines total (outcomes (started + failures.length))

section Courses

variable {terms : RetryTerms (List RetryEvent) Cause} {outcomes : Nat → Except Cause Result}
  {started total delay : Nat} {later : List Nat} {before : List RetryEvent}

theorem attempt_eq (records : ∀ delay events, terms.wait delay events = events ++ RetryEvent.waits delay)
    (begun : before.count .call = started) :
    ofOutcomes outcomes (terms.wait delay before) =
      ⟨outcomes started, before ++ RetryEvent.attempt delay, []⟩ := by
  simp [ofOutcomes, records, begun, RetryEvent.attempt]

/-- A single attempt, which settles the operation or is the last one there is. -/
theorem Course.single (ends : terms.Settles (outcomes started) ∨ later = []) :
    Course terms outcomes started total (delay :: later) before []
      ⟨outcomes started, before ++ RetryEvent.attempt delay, terms.lastLines total (outcomes started)⟩ where
  fails := nofun
  few := Nat.le_add_left 1 later.length
  ends := ends.imp_right fun none => by rw [none]; rfl
  result := rfl
  events := by simp
  log := rfl

/-- An attempt that fails in a way that may pass, and those after it. -/
theorem Course.next {cause : Cause} {failures : List Cause} {delays : List Nat}
    {rest : Outcome (List RetryEvent) (Except Cause Result)} (isFailure : outcomes started = .error cause)
    (retriable : terms.isRetriable cause = true)
    (others : Course terms outcomes (started + 1) total delays (before ++ RetryEvent.attempt delay) failures
      rest) :
    Course terms outcomes started total (delay :: delays) before (cause :: failures)
      { rest with log := terms.failedLine (started + 1) total cause :: rest.log } := by
  have shift (place : Nat) : started + (place + 1) = started + 1 + place := by omega
  have last : started + (cause :: failures).length = started + 1 + failures.length := shift _
  constructor
  case fails =>
    intro place below
    cases place with
    | zero => exact ⟨isFailure, retriable⟩
    | succ place =>
      rw [shift]
      exact others.fails place (Nat.lt_of_succ_lt_succ below)
  case few => exact Nat.succ_le_succ others.few
  case ends =>
    rw [last]
    exact others.ends.imp_right (congrArg Nat.succ)
  case result =>
    rw [last]
    exact others.result
  case events =>
    rw [List.length_cons, List.take_succ_cons, List.flatMap_cons, ← List.append_assoc]
    exact others.events
  case log =>
    rw [last, failedLines, others.log]
    rfl

/-- The attempts end with the first outcome that settles the operation, or with the last delay. -/
theorem exists_course (records : ∀ delay events, terms.wait delay events = events ++ RetryEvent.waits delay)
    (begun : before.count .call = started) :
    ∃ failures, Course terms outcomes started total (delay :: later) before failures
      (terms.runFrom (ofOutcomes outcomes) (started + 1) total delay later before) := by
  -- On the delays that are left. What has been taken down tells which outcome comes next.
  induction later generalizing delay started before with
  | nil =>
    rw [runFrom_of_stops fun _ _ _ => rfl, attempt_eq records begun]
    exact ⟨[], .single (.inr rfl)⟩
  | cons next later inductionHypothesis =>
    have attempt : ofOutcomes outcomes (terms.wait delay before) = _ := attempt_eq records begun
    by_cases settles : terms.Settles (outcomes started)
    · rw [runFrom_of_stops, attempt]
      · exact ⟨[], .single (.inl settles)⟩
      · intro cause isFailure retriable
        rw [attempt] at isFailure
        rw [settles cause isFailure] at retriable
        cases retriable
    · obtain ⟨cause, isFailure, retriable⟩ := not_settles_iff.1 settles
      have begunNext : (before ++ RetryEvent.attempt delay).count .call = started + 1 := by
        rw [List.count_append, begun, RetryEvent.count_attempt]
      obtain ⟨failures, others⟩ := inductionHypothesis begunNext
      rw [runFrom_cons_of_retriable (by rw [attempt, isFailure]) retriable, attempt]
      exact ⟨cause :: failures, others.next isFailure retriable⟩

end Courses

/-! ## Policies -/

/-- What a run of attempts at an operation with the given outcomes comes to, as the causes of the failures before
the last call tell. -/
structure OnSchedule (terms : RetryTerms (List RetryEvent) Cause) (policy : RetryPolicy)
    (outcomes : Nat → Except Cause Result) (failures : List Cause)
    (ran : Outcome (List RetryEvent) (Except Cause Result)) : Prop where
  /-- The operation is called until it is settled, as long as there are attempts left. -/
  calls : ((failures.length + 1 : ℕ) : ℕ∞) = min (terms.settlingCall outcomes) policy.attempts
  fails : ∀ place (below : place < failures.length),
    outcomes place = .error failures[place] ∧ terms.isRetriable failures[place] = true
  /-- The outcome of the last call is passed on. -/
  result : ran.result = outcomes failures.length
  /-- There is a call after each of the first delays, and nothing else. -/
  events : ran.world = (policy.delays.take (failures.length + 1)).flatMap RetryEvent.attempt
  called : ran.world.count .call = failures.length + 1
  waited : (ran.world.map RetryEvent.time).sum = (policy.delays.take (failures.length + 1)).sum
  /-- If one of the attempts that there are settles the operation, the log is about the failures before it. -/
  settled : (∃ place < policy.attempts, terms.Settles (outcomes place)) →
    ran.log = terms.failedLines policy.attempts 1 failures
  /-- If none does, the log ends with a line about the last failure. -/
  gaveUp : (∀ place < policy.attempts, ¬terms.Settles (outcomes place)) →
    ∃ cause, ran.result = .error cause ∧
      ran.log = terms.failedLines policy.attempts 1 failures ++ [terms.lastLine policy.attempts cause]

/-- The calls that it takes to settle an operation, or as many as there may be. -/
theorem calls_eq_min {terms : RetryTerms World Cause} {outcomes : Nat → Except Cause Result} {last total : Nat}
    (unsettled : ∀ place < last, ¬terms.Settles (outcomes place)) (few : last + 1 ≤ total)
    (ends : terms.Settles (outcomes last) ∨ last + 1 = total) :
    ((last + 1 : ℕ) : ℕ∞) = min (terms.settlingCall outcomes) total := by
  apply le_antisymm
  · refine le_min (le_sInf ?_) (Nat.cast_le.2 few)
    rintro _ ⟨place, settles, rfl⟩
    have notBefore : last ≤ place := Nat.not_lt.1 fun before => unsettled place before settles
    exact Nat.cast_le.2 (Nat.succ_le_succ notBefore)
  · rcases ends with settles | all
    · exact min_le_of_left_le (sInf_le ⟨last, settles, rfl⟩)
    · rw [all]
      exact min_le_right _ _

/-- A course from the beginning, with the delays of a policy, is on schedule. -/
theorem Course.onSchedule {terms : RetryTerms (List RetryEvent) Cause} {policy : RetryPolicy}
    {outcomes : Nat → Except Cause Result} {failures : List Cause}
    {ran : Outcome (List RetryEvent) (Except Cause Result)}
    (course : Course terms outcomes 0 policy.attempts policy.delays [] failures ran) :
    OnSchedule terms policy outcomes failures ran := by
  obtain ⟨fails, few, ends, result, events, log⟩ := course
  simp only [Nat.zero_add, List.nil_append] at fails ends result events log
  have unsettled : ∀ place < failures.length, ¬terms.Settles (outcomes place) := fun place below =>
    not_settles_iff.2 ⟨_, fails place below⟩
  have taken : (policy.delays.take (failures.length + 1)).length = failures.length + 1 :=
    List.length_take_of_le few
  constructor
  case calls => exact calls_eq_min unsettled few ends
  case fails => exact fails
  case result => exact result
  case events => exact events
  case called => rw [events, RetryEvent.count_flatMap_attempt, taken]
  case waited => rw [events, RetryEvent.sum_time_flatMap_attempt]
  case settled =>
    rintro ⟨place, below, settles⟩
    have settlesLast : terms.Settles (outcomes failures.length) := by
      refine ends.elim id fun all => ?_
      have notBefore : failures.length ≤ place := Nat.not_lt.1 fun before => unsettled place before settles
      rw [RetryPolicy.attempts, ← all] at below
      exact Nat.le_antisymm (Nat.le_of_lt_succ below) notBefore ▸ settles
    rw [log, lastLines_of_settles settlesLast, List.append_nil]
  case gaveUp =>
    intro none
    obtain ⟨cause, isFailure, retriable⟩ := not_settles_iff.1 (none failures.length few)
    refine ⟨cause, result.trans isFailure, ?_⟩
    rw [log, isFailure, lastLines, if_pos retriable]

/-- Under every policy, whatever failures may pass and whatever the outcomes of the operation are, it is called at
least once: until it is settled, or as often as there are attempts, if these are fewer. The log is told of in full
as far as its warnings and errors go; the line for debugging before a wait is no part of it. -/
theorem runs_on_schedule (label : String) (isRetriable : Cause → Bool) (message : Cause → String)
    (policy : RetryPolicy) (outcomes : Nat → Except Cause Result) :
    let terms := recording label isRetriable message
    1 ≤ policy.attempts ∧
      ∃ failures, OnSchedule terms policy outcomes failures (terms.run policy (ofOutcomes outcomes) []) := by
  intro terms
  refine ⟨Nat.le_add_left 1 policy.later.length, ?_⟩
  obtain ⟨failures, course⟩ : ∃ failures, Course terms outcomes 0 policy.attempts policy.delays [] failures
      (terms.run policy (ofOutcomes outcomes) []) := exists_course (fun _ _ => rfl) rfl
  exact ⟨failures, course.onSchedule⟩

end RetryTerms

end Telemetry
