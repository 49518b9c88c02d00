import Telemetry.Retry

/-!
# One attempt more

What the attempts of an operation come to is decided by the next one: it succeeds, or it fails for good, or
it fails in a way that may pass, and then it was the last one or the others follow.

`Attempts` says this of all attempts at once, by the worlds that they start in. What it says of their number,
of those before the last one and of the last one holds of every run.
-/

namespace Telemetry.RetryTerms

variable {World Cause Result : Type} {terms : RetryTerms World Cause} {operation : Action World Cause Result}
  {number total delay : Nat} {later : List Nat} {world : World} {result : Result} {cause : Cause}

theorem runFrom_of_ok (succeeds : (operation (terms.wait delay world)).result = .ok result) :
    terms.runFrom operation number total delay later world = operation (terms.wait delay world) := by
  unfold runFrom
  simp only [succeeds]

theorem runFrom_of_final (fails : (operation (terms.wait delay world)).result = .error cause)
    (final : terms.isRetriable cause = false) :
    terms.runFrom operation number total delay later world = operation (terms.wait delay world) := by
  unfold runFrom
  simp [fails, final]

theorem runFrom_nil_of_retriable (fails : (operation (terms.wait delay world)).result = .error cause)
    (retriable : terms.isRetriable cause = true) :
    terms.runFrom operation number total delay [] world =
      { operation (terms.wait delay world) with
        log := (operation (terms.wait delay world)).log ++ [terms.lastLine total cause] } := by
  unfold runFrom
  simp only [fails, retriable, if_true]

theorem runFrom_cons_of_retriable {next : Nat}
    (fails : (operation (terms.wait delay world)).result = .error cause)
    (retriable : terms.isRetriable cause = true) :
    terms.runFrom operation number total delay (next :: later) world =
      let rest :=
        terms.runFrom operation (number + 1) total next later (operation (terms.wait delay world)).world
      { rest with
        log :=
          (operation (terms.wait delay world)).log ++ terms.failedLine number total cause :: rest.log } := by
  rw [runFrom]
  simp only [fails, retriable, if_true]

/-- The line about an outcome when no other attempt follows, if it is a failure that might pass. -/
def lastLines (terms : RetryTerms World Cause) (total : Nat) : Except Cause Result → List LogLine
  | .ok _ => []
  | .error cause => if terms.isRetriable cause then [terms.lastLine total cause] else []

/-- A run stops at an outcome that no other attempt gets past, and at any outcome when no attempt is left. -/
theorem runFrom_of_stops
    (stops : ∀ cause, (operation (terms.wait delay world)).result = .error cause →
      terms.isRetriable cause = true → later = []) :
    terms.runFrom operation number total delay later world =
      { operation (terms.wait delay world) with
        log := (operation (terms.wait delay world)).log ++
          terms.lastLines total (operation (terms.wait delay world)).result } := by
  cases outcome : (operation (terms.wait delay world)).result with
  | ok result => rw [runFrom_of_ok outcome, lastLines, List.append_nil]
  | error cause =>
    cases retriable : terms.isRetriable cause with
    | false =>
      rw [runFrom_of_final outcome retriable, lastLines, if_neg (by rw [retriable]; exact Bool.false_ne_true),
        List.append_nil]
    | true =>
      rw [stops cause outcome retriable, runFrom_nil_of_retriable outcome retriable, lastLines, if_pos retriable]

/-! ## All attempts -/

variable {next : Nat} {starts : List World} {final : World} {outcome : Except Cause Result}

/-- The attempts of an operation, given by the delay before the first one and those before the others, the
world in the beginning, the worlds that the attempts start in, and the outcome and the world in the end. -/
inductive Attempts (terms : RetryTerms World Cause) (operation : Action World Cause Result) :
    Nat → List Nat → World → List World → Except Cause Result → World → Prop
  /-- Another attempt would not get past the failure, or there is none left. -/
  | last {delay : Nat} {later : List Nat} {world : World}
      (stops : ∀ cause, (operation (terms.wait delay world)).result = .error cause →
        terms.isRetriable cause = true → later = []) :
      Attempts terms operation delay later world [terms.wait delay world]
        (operation (terms.wait delay world)).result (operation (terms.wait delay world)).world
  | next {delay next : Nat} {later : List Nat} {world final : World} {starts : List World}
      {outcome : Except Cause Result} {cause : Cause}
      (fails : (operation (terms.wait delay world)).result = .error cause)
      (retriable : terms.isRetriable cause = true)
      (others : Attempts terms operation next later (operation (terms.wait delay world)).world starts outcome
        final) :
      Attempts terms operation delay (next :: later) world (terms.wait delay world :: starts) outcome final

/-- Every run is made of attempts. -/
theorem exists_attempts (terms : RetryTerms World Cause) (operation : Action World Cause Result)
    (number total delay : Nat) (later : List Nat) (world : World) :
    ∃ starts, terms.Attempts operation delay later world starts
      (terms.runFrom operation number total delay later world).result
      (terms.runFrom operation number total delay later world).world := by
  induction later generalizing number delay world with
  | nil =>
    rw [runFrom_of_stops fun _ _ _ => rfl]
    exact ⟨_, .last fun _ _ _ => rfl⟩
  | cons next later inductionHypothesis =>
    by_cases goesOn : ∃ cause, (operation (terms.wait delay world)).result = .error cause ∧
        terms.isRetriable cause = true
    · obtain ⟨cause, fails, retriable⟩ := goesOn
      rw [runFrom_cons_of_retriable fails retriable]
      obtain ⟨starts, others⟩ := inductionHypothesis (number + 1) next
        (operation (terms.wait delay world)).world
      exact ⟨_, .next fails retriable others⟩
    · have stops : ∀ cause, (operation (terms.wait delay world)).result = .error cause →
          terms.isRetriable cause = true → next :: later = [] :=
        fun cause fails retriable => absurd ⟨cause, fails, retriable⟩ goesOn
      rw [runFrom_of_stops stops]
      exact ⟨_, .last stops⟩

namespace Attempts

/-- There is always an attempt. -/
theorem ne_nil (attempts : terms.Attempts operation delay later world starts outcome final) :
    starts ≠ [] := by
  cases attempts with
  | last => exact List.cons_ne_nil _ _
  | next => exact List.cons_ne_nil _ _

/-- There is an attempt for each delay at most. -/
theorem length_le (attempts : terms.Attempts operation delay later world starts outcome final) :
    starts.length ≤ later.length + 1 := by
  induction attempts with
  | last => exact Nat.le_add_left 1 _
  | next _ _ _ inductionHypothesis => exact Nat.succ_le_succ inductionHypothesis

/-- The outcome is that of the last attempt. -/
theorem exists_last (attempts : terms.Attempts operation delay later world starts outcome final) :
    ∃ start, starts.getLast? = some start ∧ (operation start).result = outcome ∧
      (operation start).world = final := by
  induction attempts with
  | last => exact ⟨_, rfl, rfl, rfl⟩
  | next _ _ _ inductionHypothesis =>
    obtain ⟨start, isLast, result, world⟩ := inductionHypothesis
    refine ⟨start, ?_, result, world⟩
    rw [List.getLast?_cons, isLast, Option.getD_some]

/-- An attempt that is followed by another has failed in a way that may pass. -/
theorem fails_of_mem_dropLast (attempts : terms.Attempts operation delay later world starts outcome final)
    {start : World} (member : start ∈ starts.dropLast) :
    ∃ cause, (operation start).result = .error cause ∧ terms.isRetriable cause = true := by
  induction attempts with
  | last => cases member
  | next fails retriable others inductionHypothesis =>
    rw [List.dropLast_cons_of_ne_nil others.ne_nil] at member
    rcases List.mem_cons.1 member with rfl | later
    · exact ⟨_, fails, retriable⟩
    · exact inductionHypothesis later

/-- If even the last attempt has failed in a way that may pass, no attempt was left. -/
theorem length_of_retriable (attempts : terms.Attempts operation delay later world starts outcome final)
    (fails : outcome = .error cause) (retriable : terms.isRetriable cause = true) :
    starts.length = later.length + 1 := by
  induction attempts with
  | last stops => rw [stops cause fails retriable]; rfl
  | next _ _ _ inductionHypothesis => exact congrArg Nat.succ (inductionHypothesis fails)

/-- What holds in the beginning and is kept by every attempt holds where any attempt starts. -/
theorem forall_mem {holds : World → Prop}
    (attempts : terms.Attempts operation delay later world starts outcome final)
    (waits : ∀ delay world, terms.wait delay world = world)
    (keeps : ∀ world, holds world → holds (operation world).world) (begins : holds world) :
    ∀ start ∈ starts, holds start := by
  induction attempts with
  | last =>
    rw [waits]
    intro start member
    exact List.mem_singleton.1 member ▸ begins
  | next _ _ _ inductionHypothesis =>
    rw [waits] at inductionHypothesis ⊢
    intro start member
    rcases List.mem_cons.1 member with rfl | later
    · exact begins
    · exact inductionHypothesis (keeps _ begins) start later

/-- If every attempt adds an entry to a list, the list grows by an entry for each attempt. -/
theorem map_starts {Entry : Type} {entries : World → List Entry} {entry : World → Entry}
    (attempts : terms.Attempts operation delay later world starts outcome final)
    (waits : ∀ delay world, terms.wait delay world = world)
    (adds : ∀ world, entries (operation world).world = entries world ++ [entry world]) :
    entries final = entries world ++ starts.map entry := by
  induction attempts with
  | last =>
    rw [waits]
    exact adds _
  | next _ _ _ inductionHypothesis =>
    rw [waits] at inductionHypothesis ⊢
    rw [inductionHypothesis, adds, List.append_assoc]
    rfl

end Attempts

end Telemetry.RetryTerms
