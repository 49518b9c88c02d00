import Telemetry.Agent.Queue

/-!
# What a call does to the queue

An offer either puts its item at the end or leaves the queue alone. A call that takes an item gets the first
one, or finds that there is none, or is cancelled, or has only got the lock so far. So items leave in the
order in which they came, and only a call that gets an item takes one away.

Before that, a queue has to be made. Its room is two for each taker: this is exact below an eighth of all words,
and from there on no queue is made, unless the doubled number starts again at zero.
-/

namespace Telemetry

universe u

variable {Item : Type u}

namespace Overflow

variable {overflow : Overflow} {value word : Nat}

theorem word?_of_lt (fits : value < wordLimit) : overflow.word? value = some value :=
  if_pos fits

theorem word?_stops_of_le (tooLarge : wordLimit ≤ value) : stops.word? value = none :=
  if_neg (Nat.not_lt.2 tooLarge)

theorem word?_wraps : wraps.word? value = some (value % wordLimit) := by
  by_cases fits : value < wordLimit
  · rw [word?_of_lt fits, Nat.mod_eq_of_lt fits]
  · exact if_neg fits

/-- A word is never more than the number that is put into it. -/
theorem le_of_word? (computed : overflow.word? value = some word) : word ≤ value := by
  by_cases fits : value < wordLimit
  · rw [word?_of_lt fits] at computed
    cases computed
    exact Nat.le_refl value
  · cases overflow with
    | stops =>
      rw [word?_stops_of_le (Nat.not_lt.1 fits)] at computed
      cases computed
    | wraps =>
      rw [word?_wraps] at computed
      cases computed
      exact Nat.mod_le value wordLimit

end Overflow

/-- The item that a call has taken, if it has taken one. -/
def TakeProgress.item? : TakeProgress Item → Option Item
  | locked => none
  | ended item => item

namespace Queue

variable {queue next : Queue Item} {cancelled : Bool} {item : Item} {taker : Nat} {waiting : Taking}

/-! ### Making a queue -/

section Create

variable {overflow : Overflow} {takers : Nat}

/-- All that can be made: an empty queue with room for what the doubled number of takers has become. -/
theorem create?_eq_some_iff :
    create? overflow takers = some queue ↔
      ∃ room, overflow.word? (2 * max 1 takers) = some room ∧ (1 ≤ room ∧ room ≤ mostRoom) ∧
        queue = { forTakers takers with capacity := room } := by
  rw [create?, Option.bind_eq_some_iff]
  refine exists_congr fun room => and_congr_right fun _ => ?_
  rw [Option.ite_none_right_eq_some, Option.some.injEq, eq_comm]

/-- Where the doubled number of takers is a room that a queue can have, it becomes its room. -/
theorem create?_of_le (possible : 2 * max 1 takers ≤ mostRoom) :
    create? overflow takers = some (forTakers takers : Queue Item) := by
  have fits : 2 * max 1 takers < wordLimit := Nat.lt_of_le_of_lt possible (by decide)
  exact create?_eq_some_iff.2 ⟨_, Overflow.word?_of_lt fits, ⟨by omega, possible⟩, rfl⟩

/-- Otherwise none is made, as long as the program does not compute on with what is left of the number. -/
theorem create?_stops_of_lt (beyond : mostRoom < 2 * max 1 takers) :
    create? .stops takers = (none : Option (Queue Item)) := by
  rw [Option.eq_none_iff_forall_ne_some]
  intro queue created
  obtain ⟨room, computed, ⟨_, possible⟩, _⟩ := create?_eq_some_iff.1 created
  by_cases fits : 2 * max 1 takers < wordLimit
  · rw [Overflow.word?_of_lt fits] at computed
    cases computed
    omega
  · rw [Overflow.word?_stops_of_le (Nat.not_lt.1 fits)] at computed
    cases computed

/-- A program that computes on with what is left makes a queue just where the rest is a room again. -/
theorem create?_wraps_eq_some_iff (beyond : mostRoom < 2 * max 1 takers) (isWord : takers < wordLimit) :
    create? .wraps takers = some queue ↔
      (wordLimit < 2 * max 1 takers ∧ 2 * max 1 takers ≤ wordLimit + mostRoom) ∧
        queue = { forTakers takers with capacity := 2 * max 1 takers - wordLimit } := by
  have bounded : 2 * max 1 takers < 2 * wordLimit := by
    simp only [wordLimit] at isWord ⊢
    omega
  rw [create?_eq_some_iff, Overflow.word?_wraps]
  simp only [Option.some.injEq, exists_eq_left']
  by_cases fits : 2 * max 1 takers < wordLimit
  · rw [Nat.mod_eq_of_lt fits]
    constructor
    · rintro ⟨⟨_, possible⟩, _⟩
      omega
    · rintro ⟨⟨overflows, _⟩, _⟩
      omega
  · rw [Nat.mod_eq_sub_mod (Nat.not_lt.1 fits), Nat.mod_eq_of_lt (by omega)]
    refine and_congr_left fun _ => ?_
    omega

end Create

/-! ### Calls -/

@[simp]
theorem content_push (queue : Queue Item) (item : Item) :
    (queue.push item).content = queue.content ++ [item] := rfl

@[simp]
theorem offersEnded_push (queue : Queue Item) (item : Item) :
    (queue.push item).offersEnded = queue.offersEnded := rfl

@[simp]
theorem content_acquire (queue : Queue Item) (taker : Nat) :
    (queue.acquire taker).content = queue.content := rfl

@[simp]
theorem offersEnded_acquire (queue : Queue Item) (taker : Nat) :
    (queue.acquire taker).offersEnded = queue.offersEnded := rfl

@[simp]
theorem content_release (queue : Queue Item) : queue.release.content = queue.content := rfl

@[simp]
theorem offersEnded_release (queue : Queue Item) : queue.release.offersEnded = queue.offersEnded := rfl

@[simp]
theorem content_pop (queue : Queue Item) : queue.pop.content = queue.content.tail := rfl

@[simp]
theorem offersEnded_pop (queue : Queue Item) : queue.pop.offersEnded = queue.offersEnded := rfl

@[simp]
theorem content_giveUp (queue : Queue Item) (waiting : Taking) :
    (queue.giveUp waiting).content = queue.content := by
  cases waiting <;> rfl

@[simp]
theorem capacity_giveUp (queue : Queue Item) (waiting : Taking) :
    (queue.giveUp waiting).capacity = queue.capacity := by
  cases waiting <;> rfl

@[simp]
theorem offersEnded_giveUp (queue : Queue Item) (waiting : Taking) :
    (queue.giveUp waiting).offersEnded = queue.offersEnded := by
  cases waiting <;> rfl

/-- All that an offer can come to. -/
theorem offer?_eq_some_iff {outcome : Offered} :
    queue.offer? cancelled item = some (outcome, next) ↔
      (cancelled = true ∧ outcome = .cancelled ∧ next = queue) ∨
      (cancelled = false ∧ queue.takesEnded = true ∧ outcome = .closed ∧ next = queue) ∨
      (cancelled = false ∧ queue.takesEnded = false ∧ queue.content.length < queue.capacity ∧
        outcome = .queued ∧ next = queue.push item) := by
  constructor
  · intro came
    unfold offer? at came
    split at came
    · next isCancelled =>
      cases came
      exact .inl ⟨isCancelled, rfl, rfl⟩
    · next goesOn =>
      have notCancelled : cancelled = false := by simpa using goesOn
      split at came
      · next ended =>
        cases came
        exact .inr (.inl ⟨notCancelled, ended, rfl, rfl⟩)
      · next lasts =>
        have notEnded : queue.takesEnded = false := by simpa using lasts
        split at came
        · next room =>
          cases came
          exact .inr (.inr ⟨notCancelled, notEnded, room, rfl, rfl⟩)
        · cases came
  · rintro (⟨rfl, rfl, rfl⟩ | ⟨rfl, ended, rfl, rfl⟩ | ⟨rfl, ended, room, rfl, rfl⟩)
    · simp [offer?]
    · simp [offer?, ended]
    · simp [offer?, ended, room]

theorem length_le_of_offer? {outcome : Offered} (came : queue.offer? cancelled item = some (outcome, next))
    (fits : queue.content.length ≤ queue.capacity) : next.content.length ≤ next.capacity := by
  rcases offer?_eq_some_iff.1 came with ⟨_, _, rfl⟩ | ⟨_, _, _, rfl⟩ | ⟨_, _, room, _, rfl⟩
  · exact fits
  · exact fits
  · rw [content_push, List.length_append]
    exact room

/-- An offer that is not queued does nothing. -/
theorem eq_of_offer? {outcome : Offered} (came : queue.offer? cancelled item = some (outcome, next))
    (notQueued : outcome ≠ .queued) : next = queue := by
  rcases offer?_eq_some_iff.1 came with ⟨_, _, same⟩ | ⟨_, _, _, same⟩ | ⟨_, _, _, queued, _⟩
  · exact same
  · exact same
  · exact absurd queued notQueued

/-- An offer changes nothing but the items. -/
theorem frame_of_offer? {outcome : Offered} (came : queue.offer? cancelled item = some (outcome, next)) :
    next = { queue with content := next.content } := by
  rcases offer?_eq_some_iff.1 came with ⟨_, _, rfl⟩ | ⟨_, _, _, rfl⟩ | ⟨_, _, _, _, rfl⟩ <;> rfl

/-- All that a call that takes an item can come to: it has an item, it has found none, it has been cancelled,
or it has the lock. -/
theorem take?_cases {progress : TakeProgress Item}
    (taken : queue.take? cancelled taker waiting = some (progress, next)) :
    (∃ item rest, queue.content = item :: rest ∧ waiting ≠ .lock ∧ progress = .ended (some item) ∧
        next = queue.pop) ∨
      (queue.content = [] ∧ (waiting = .ifAny ∨ waiting = .item ∧ queue.offersEnded = true) ∧
        progress = .ended none ∧ next = queue.pop) ∨
      (cancelled = true ∧ waiting ≠ .ifAny ∧ progress = .ended none ∧ next = queue.giveUp waiting) ∨
      (waiting = .lock ∧ progress = .locked ∧ next = queue.acquire taker) := by
  cases waiting with
  | lock =>
    simp only [take?] at taken
    split at taken
    · next isCancelled =>
      cases taken
      exact .inr (.inr (.inl ⟨isCancelled, by simp, rfl, rfl⟩))
    · split at taken
      · cases taken
        exact .inr (.inr (.inr ⟨rfl, rfl, rfl⟩))
      · cases taken
  | item =>
    simp only [take?] at taken
    split at taken
    · next isCancelled =>
      cases taken
      exact .inr (.inr (.inl ⟨isCancelled, by simp, rfl, rfl⟩))
    · split at taken
      · cases taken
      · next ready =>
        cases taken
        cases content : queue.content with
        | nil =>
          have ended : queue.offersEnded = true := by simpa [content] using ready
          exact .inr (.inl ⟨rfl, .inr ⟨rfl, ended⟩, rfl, rfl⟩)
        | cons item rest => exact .inl ⟨item, rest, rfl, by simp, rfl, rfl⟩
  | ifAny =>
    simp only [take?] at taken
    split at taken
    · cases taken
      cases content : queue.content with
      | nil => exact .inr (.inl ⟨rfl, .inl rfl, rfl, rfl⟩)
      | cons item rest => exact .inl ⟨item, rest, rfl, by simp, rfl, rfl⟩
    · cases taken

/-- What a call takes is what was in front. -/
theorem content_of_take? {progress : TakeProgress Item}
    (taken : queue.take? cancelled taker waiting = some (progress, next)) :
    queue.content = progress.item?.toList ++ next.content := by
  rcases take?_cases taken with ⟨item, rest, content, _, rfl, rfl⟩ | ⟨content, _, rfl, rfl⟩ |
    ⟨_, _, rfl, rfl⟩ | ⟨_, rfl, rfl⟩
  · simp [TakeProgress.item?, content]
  · simp [TakeProgress.item?, content]
  · simp [TakeProgress.item?]
  · simp [TakeProgress.item?]

/-- A call that does not wait comes to nothing only when the queue is empty. -/
theorem content_eq_nil_of_take? (taken : queue.take? cancelled taker .ifAny = some (.ended none, next)) :
    queue.content = [] ∧ next.content = [] := by
  rcases take?_cases taken with ⟨_, _, _, _, wrong, _⟩ | ⟨content, _, _, rfl⟩ | ⟨_, wrong, _⟩ | ⟨wrong, _⟩
  · cases wrong
  · exact ⟨content, by rw [content_pop, content, List.tail_nil]⟩
  · exact absurd rfl wrong
  · cases wrong

theorem offersEnded_of_take? {progress : TakeProgress Item}
    (taken : queue.take? cancelled taker waiting = some (progress, next)) :
    next.offersEnded = queue.offersEnded := by
  rcases take?_cases taken with ⟨_, _, _, _, _, rfl⟩ | ⟨_, _, _, rfl⟩ | ⟨_, _, _, rfl⟩ | ⟨_, _, rfl⟩
  · rfl
  · rfl
  · exact offersEnded_giveUp queue waiting
  · rfl

/-- A call that takes an item changes nothing but the items and the lock. -/
theorem frame_of_take? {progress : TakeProgress Item}
    (taken : queue.take? cancelled taker waiting = some (progress, next)) :
    next = { queue with content := next.content, lock := next.lock } := by
  rcases take?_cases taken with ⟨_, _, _, _, _, rfl⟩ | ⟨_, _, _, rfl⟩ | ⟨_, _, _, rfl⟩ | ⟨_, _, rfl⟩
  · rfl
  · rfl
  · cases waiting <;> rfl
  · rfl

theorem length_le_of_take? {progress : TakeProgress Item}
    (taken : queue.take? cancelled taker waiting = some (progress, next))
    (fits : queue.content.length ≤ queue.capacity) : next.content.length ≤ next.capacity := by
  have front := congrArg List.length (content_of_take? taken)
  have sameCapacity : next.capacity = queue.capacity := by rw [frame_of_take? taken]
  rw [List.length_append] at front
  omega

/-- The lock is given to a call only when nobody has it. -/
theorem lock_of_take?_locked (taken : queue.take? cancelled taker waiting = some (.locked, next)) :
    queue.lock = none ∧ next.lock = some taker := by
  cases waiting with
  | lock =>
    simp only [take?] at taken
    split at taken
    · cases taken
    · split at taken
      · next free =>
        cases taken
        exact ⟨Option.isNone_iff_eq_none.1 free, rfl⟩
      · cases taken
  | item =>
    simp only [take?] at taken
    split at taken
    · cases taken
    · split at taken <;> cases taken
  | ifAny =>
    simp only [take?] at taken
    split at taken <;> cases taken

/-- A call that ends does the same to the lock as one that is given up. -/
theorem lock_of_take?_ended {item : Option Item}
    (taken : queue.take? cancelled taker waiting = some (.ended item, next)) :
    next.lock = (queue.giveUp waiting).lock := by
  cases waiting with
  | lock =>
    simp only [take?] at taken
    split at taken
    · cases taken
      rfl
    · split at taken <;> cases taken
  | item =>
    simp only [take?] at taken
    split at taken
    · cases taken
      rfl
    · split at taken
      · cases taken
      · cases taken
        rfl
  | ifAny =>
    simp only [take?] at taken
    split at taken
    · next free =>
      cases taken
      exact (Option.isNone_iff_eq_none.1 free).symm
    · cases taken

end Queue

end Telemetry
