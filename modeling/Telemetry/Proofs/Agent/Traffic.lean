import Telemetry.Agent.Calls
import Telemetry.Proofs.Agent.Queue
import Telemetry.Proofs.Run
import Telemetry.Proofs.Traversal

/-!
# What goes through the queue

Whatever calls go on at the same time, and wherever they are given up, the items that have been queued are those
that have been taken and then those that are still there. A step that ends a call either moves one item or none,
and a call that is cancelled or given up moves none. The lock belongs to the one call that waits for an item, so a
call gives back its own lock and nobody else's.
-/

namespace Telemetry

universe u

variable {Item : Type u}

section Items

variable {earlier later : List (QueueAnswer Item)}

@[simp]
theorem queuedItems_nil : queuedItems ([] : List (QueueAnswer Item)) = [] := rfl

theorem queuedItems_append : queuedItems (earlier ++ later) = queuedItems earlier ++ queuedItems later :=
  List.filterMap_append

theorem takenItems_append : takenItems (earlier ++ later) = takenItems earlier ++ takenItems later :=
  List.filterMap_append

end Items

namespace Traffic

variable {traffic next final : Traffic Item} {event : TrafficEvent Item} {events : List (TrafficEvent Item)}
  {answer : Option (QueueAnswer Item)} {answers : List (QueueAnswer Item)} {holder other : Nat}

/-! ## Steps -/

/-- All that a step can be: a call begins, or gets the lock, or ends with an answer, or is given up; or all calls
are cancelled, or one side comes to its end. -/
inductive Moves (traffic : Traffic Item) :
    TrafficEvent Item → Traffic Item → Option (QueueAnswer Item) → Prop
  | begun {holder : Nat} {call : QueueCall Item} (free : traffic.callOf? holder = none)
      (fresh : call.isFresh = true) :
      Moves traffic (.call holder call) { traffic with calls := (holder, call) :: traffic.calls } none
  | offered {holder : Nat} {item : Item} {outcome : Offered} {queue : Queue Item}
      (goesOn : traffic.callOf? holder = some (.offer item))
      (came : traffic.queue.offer? traffic.cancelled item = some (outcome, queue)) :
      Moves traffic (.poll holder) { traffic with queue, calls := traffic.callsBut holder }
        (some (.offered item outcome))
  | locked {holder : Nat} {waiting : Taking} {queue : Queue Item}
      (goesOn : traffic.callOf? holder = some (.take waiting))
      (came : traffic.queue.take? traffic.cancelled holder waiting = some (.locked, queue)) :
      Moves traffic (.poll holder)
        { traffic with queue, calls := (holder, .take .item) :: traffic.callsBut holder } none
  | taken {holder : Nat} {waiting : Taking} {item : Option Item} {queue : Queue Item}
      (goesOn : traffic.callOf? holder = some (.take waiting))
      (came : traffic.queue.take? traffic.cancelled holder waiting = some (.ended item, queue)) :
      Moves traffic (.poll holder) { traffic with queue, calls := traffic.callsBut holder } (some (.taken item))
  | offerGivenUp {holder : Nat} {item : Item} (goesOn : traffic.callOf? holder = some (.offer item)) :
      Moves traffic (.drop holder) { traffic with calls := traffic.callsBut holder } none
  | takeGivenUp {holder : Nat} {waiting : Taking} (goesOn : traffic.callOf? holder = some (.take waiting)) :
      Moves traffic (.drop holder)
        { traffic with queue := traffic.queue.giveUp waiting, calls := traffic.callsBut holder } none
  | cancelled : Moves traffic .cancel { traffic with cancelled := true } none
  | offersEnded : Moves traffic .endOffers { traffic with queue.offersEnded := true } none
  | takesEnded : Moves traffic .endTakes { traffic with queue.takesEnded := true } none

theorem moves_of_step (stepped : traffic.step event = some (next, answer)) : Moves traffic event next answer := by
  cases event with
  | call holder call =>
    rw [step] at stepped
    obtain ⟨possible, same⟩ := Option.ite_none_right_eq_some.1 stepped
    cases same
    obtain ⟨free, fresh⟩ := Bool.and_eq_true_iff.1 possible
    exact .begun (Option.isNone_iff_eq_none.1 free) fresh
  | poll holder =>
    rw [step] at stepped
    obtain ⟨call, goesOn, polled⟩ := Option.bind_eq_some_iff.1 stepped
    cases call with
    | offer item =>
      obtain ⟨⟨outcome, queue⟩, came, same⟩ := Option.map_eq_some_iff.1 polled
      cases same
      exact .offered goesOn came
    | take waiting =>
      obtain ⟨⟨progress, queue⟩, came, same⟩ := Option.map_eq_some_iff.1 polled
      cases progress with
      | locked =>
        cases same
        exact .locked goesOn came
      | ended item =>
        cases same
        exact .taken goesOn came
  | drop holder =>
    rw [step] at stepped
    obtain ⟨call, goesOn, same⟩ := Option.map_eq_some_iff.1 stepped
    cases call with
    | offer item =>
      cases same
      exact .offerGivenUp goesOn
    | take waiting =>
      cases same
      exact .takeGivenUp goesOn
  | cancel =>
    cases stepped
    exact .cancelled
  | endOffers =>
    cases stepped
    exact .offersEnded
  | endTakes =>
    cases stepped
    exact .takesEnded

/-- No step loses an item or makes one. -/
theorem content_of_moves (moves : Moves traffic event next answer) :
    traffic.queue.content ++ queuedItems answer.toList = takenItems answer.toList ++ next.queue.content := by
  cases moves with
  | begun => exact List.append_nil _
  | @offered _ item outcome _ _ came =>
    rcases Queue.offer?_eq_some_iff.1 came with ⟨_, rfl, rfl⟩ | ⟨_, _, rfl, rfl⟩ | ⟨_, _, _, rfl, rfl⟩
    · exact List.append_nil _
    · exact List.append_nil _
    · rfl
  | locked _ came =>
    have same := Queue.content_of_take? came
    rw [Option.toList_none, queuedItems_nil, List.append_nil]
    exact same
  | @taken _ _ item _ _ came =>
    have front := Queue.content_of_take? came
    have isTaken : takenItems (some (QueueAnswer.taken item)).toList = item.toList := by
      cases item <;> rfl
    rw [isTaken, ← TakeProgress.item?.eq_2 item, ← front]
    exact List.append_nil _
  | offerGivenUp => exact List.append_nil _
  | takeGivenUp =>
    rw [Queue.content_giveUp]
    exact List.append_nil _
  | cancelled => exact List.append_nil _
  | offersEnded => exact List.append_nil _
  | takesEnded => exact List.append_nil _

theorem capacity_of_moves (moves : Moves traffic event next answer) :
    next.queue.capacity = traffic.queue.capacity := by
  cases moves with
  | offered _ came => rw [Queue.frame_of_offer? came]
  | locked _ came | taken _ came => rw [Queue.frame_of_take? came]
  | takeGivenUp => exact Queue.capacity_giveUp _ _
  | begun | offerGivenUp | cancelled | offersEnded | takesEnded => rfl

theorem length_le_of_moves (moves : Moves traffic event next answer)
    (fits : traffic.queue.content.length ≤ traffic.queue.capacity) :
    next.queue.content.length ≤ next.queue.capacity := by
  cases moves with
  | offered _ came => exact Queue.length_le_of_offer? came fits
  | locked _ came | taken _ came => exact Queue.length_le_of_take? came fits
  | takeGivenUp => simpa using fits
  | begun | offerGivenUp | cancelled | offersEnded | takesEnded => exact fits

theorem cancelled_of_moves (moves : Moves traffic event next answer) :
    next.cancelled = true ↔ traffic.cancelled = true ∨ .cancel = event := by
  cases moves <;> simp

theorem offersEnded_of_moves (moves : Moves traffic event next answer) :
    next.queue.offersEnded = true ↔ traffic.queue.offersEnded = true ∨ .endOffers = event := by
  cases moves with
  | offered _ came =>
    rw [Queue.frame_of_offer? came]
    simp
  | locked _ came => simp [Queue.offersEnded_of_take? came]
  | taken _ came => simp [Queue.offersEnded_of_take? came]
  | begun | offerGivenUp | takeGivenUp | cancelled | offersEnded | takesEnded => simp

/-! ## The lock -/

theorem lookup_callsBut :
    (traffic.callsBut holder).lookup other = if other = holder then none else traffic.callOf? other :=
  lookup_filter_ne holder traffic.calls

/-- The lock belongs to the call that waits for an item, if there is one. -/
def LockIsOwned (traffic : Traffic Item) : Prop :=
  ∀ holder, traffic.queue.lock = some holder ↔ traffic.callOf? holder = some (.take .item)

/-- A call that goes away and gives back the lock just if it has it leaves the lock to its owner. -/
theorem LockIsOwned.leave {call : QueueCall Item} (owned : traffic.LockIsOwned)
    (goesOn : traffic.callOf? holder = some call) (calls : next.calls = traffic.callsBut holder)
    (givesBack : call = .take .item → next.queue.lock = none)
    (keeps : call ≠ .take .item → next.queue.lock = traffic.queue.lock) : next.LockIsOwned := by
  intro other
  rw [callOf?, calls, lookup_callsBut]
  by_cases hasLock : call = .take .item
  · have owner : traffic.queue.lock = some holder := (owned holder).2 (goesOn.trans (congrArg some hasLock))
    rw [givesBack hasLock]
    split
    · simp
    · next differ =>
      rw [← owned other, owner]
      simp [Ne.symm differ]
  · have notOwner : traffic.queue.lock ≠ some holder := by
      rw [Ne, owned holder, goesOn]
      simpa using hasLock
    rw [keeps hasLock]
    split
    · next same => simp [same, notOwner]
    · exact owned other

theorem LockIsOwned.leaveTake {waiting : Taking} (owned : traffic.LockIsOwned)
    (goesOn : traffic.callOf? holder = some (.take waiting)) (calls : next.calls = traffic.callsBut holder)
    (sameLock : next.queue.lock = (traffic.queue.giveUp waiting).lock) : next.LockIsOwned := by
  refine owned.leave goesOn calls ?_ ?_
  · rintro ⟨⟩
    exact sameLock
  · intro other
    cases waiting with
    | item => exact absurd rfl other
    | lock | ifAny => exact sameLock

theorem LockIsOwned.step (owned : traffic.LockIsOwned) (moves : Moves traffic event next answer) :
    next.LockIsOwned := by
  cases moves with
  | @begun holder call free fresh =>
    intro other
    rw [callOf?, lookup_cons_ite]
    split
    · next same =>
      rw [owned other, same, free]
      cases call with
      | offer item => simp
      | take waiting => cases waiting <;> simp_all [QueueCall.isFresh]
    · exact owned other
  | offered goesOn came =>
    exact owned.leave goesOn rfl nofun fun _ => by rw [Queue.frame_of_offer? came]
  | @locked holder waiting queue goesOn came =>
    obtain ⟨wasFree, nowHolder⟩ := Queue.lock_of_take?_locked came
    intro other
    have others := owned other
    rw [wasFree] at others
    rw [callOf?, lookup_cons_ite, lookup_callsBut, nowHolder]
    split
    · next same => simp [same]
    · next differ => simpa [Ne.symm differ] using others
  | taken goesOn came => exact owned.leaveTake goesOn rfl (Queue.lock_of_take?_ended came)
  | offerGivenUp goesOn => exact owned.leave goesOn rfl nofun fun _ => rfl
  | takeGivenUp goesOn => exact owned.leaveTake goesOn rfl rfl
  | cancelled | offersEnded | takesEnded => exact owned

/-! ## Runs -/

/-- A step as a step of a machine. -/
def stepAnswers (traffic : Traffic Item) (event : TrafficEvent Item) :
    Option (Traffic Item × List (QueueAnswer Item)) :=
  (traffic.step event).map fun (next, answer) => (next, answer.toList)

theorem run_eq_some_iff :
    traffic.run events = some (final, answers) ↔ Run stepAnswers traffic events answers final :=
  Run.iff_of_equations (fun _ => rfl) fun traffic event events => by
    rw [run, stepAnswers, Option.bind_map]
    rfl

/-- What every step keeps, of the traffic and of all that has happened up to it, every run keeps. -/
theorem preserves (ran : traffic.run events = some (final, answers))
    (Holds : List (TrafficEvent Item) → List (QueueAnswer Item) → Traffic Item → Prop)
    (initially : Holds [] [] traffic)
    (stepwise : ∀ {before done current event next answer}, Holds before done current →
      Moves current event next answer → Holds (before ++ [event]) (done ++ answer.toList) next) :
    Holds events answers final := by
  refine (run_eq_some_iff.1 ran).preserves Holds initially fun holds stepped => ?_
  obtain ⟨⟨next, answer⟩, moves, same⟩ := Option.map_eq_some_iff.1 stepped
  cases same
  exact stepwise holds (moves_of_step moves)

/-- No run loses an item or makes one, and none comes before another that was queued earlier. -/
theorem content_of_run (ran : traffic.run events = some (final, answers)) :
    traffic.queue.content ++ queuedItems answers = takenItems answers ++ final.queue.content := by
  refine preserves ran
    (fun _ done current => traffic.queue.content ++ queuedItems done = takenItems done ++ current.queue.content)
    (List.append_nil _) fun {_ done current _ next answer} holds moves => ?_
  calc traffic.queue.content ++ queuedItems (done ++ answer.toList)
      = (traffic.queue.content ++ queuedItems done) ++ queuedItems answer.toList := by
        rw [queuedItems_append, List.append_assoc]
    _ = takenItems done ++ (current.queue.content ++ queuedItems answer.toList) := by
        rw [holds, List.append_assoc]
    _ = takenItems (done ++ answer.toList) ++ next.queue.content := by
        rw [content_of_moves moves, takenItems_append, List.append_assoc]

theorem capacity_of_run (ran : traffic.run events = some (final, answers)) :
    final.queue.capacity = traffic.queue.capacity :=
  preserves ran (fun _ _ current => current.queue.capacity = traffic.queue.capacity) rfl
    fun holds moves => (capacity_of_moves moves).trans holds

theorem length_le_of_run (ran : traffic.run events = some (final, answers))
    (fits : traffic.queue.content.length ≤ traffic.queue.capacity) :
    final.queue.content.length ≤ final.queue.capacity :=
  preserves ran (fun _ _ current => current.queue.content.length ≤ current.queue.capacity) fits
    fun holds moves => length_le_of_moves moves holds

theorem cancelled_of_run (ran : traffic.run events = some (final, answers)) :
    final.cancelled = true ↔ traffic.cancelled = true ∨ .cancel ∈ events := by
  refine preserves ran (fun before _ current => current.cancelled = true ↔
    traffic.cancelled = true ∨ .cancel ∈ before) (by simp) fun holds moves => ?_
  rw [cancelled_of_moves moves, holds, List.mem_append, List.mem_singleton, or_assoc]

theorem offersEnded_of_run (ran : traffic.run events = some (final, answers)) :
    final.queue.offersEnded = true ↔ traffic.queue.offersEnded = true ∨ .endOffers ∈ events := by
  refine preserves ran (fun before _ current => current.queue.offersEnded = true ↔
    traffic.queue.offersEnded = true ∨ .endOffers ∈ before) (by simp) fun holds moves => ?_
  rw [offersEnded_of_moves moves, holds, List.mem_append, List.mem_singleton, or_assoc]

theorem LockIsOwned.run (owned : traffic.LockIsOwned) (ran : traffic.run events = some (final, answers)) :
    final.LockIsOwned :=
  preserves ran (fun _ _ current => current.LockIsOwned) owned fun holds moves => holds.step moves

/-- While nobody takes anything out of a full queue, nothing more gets into it. -/
theorem length_queuedItems_le (ran : traffic.run events = some (final, answers))
    (isFull : traffic.queue.content.length = traffic.queue.capacity) :
    (queuedItems answers).length ≤ (takenItems answers).length := by
  have sameItems := congrArg List.length (content_of_run ran)
  have fits := length_le_of_run ran isFull.le
  rw [capacity_of_run ran] at fits
  rw [List.length_append, List.length_append] at sameItems
  omega

/-! ## Calls that come to nothing -/

theorem queue_of_not_queued {item : Item} {outcome : Offered}
    (stepped : traffic.step event = some (next, some (.offered item outcome))) (notQueued : outcome ≠ .queued) :
    next.queue = traffic.queue := by
  cases moves_of_step stepped with
  | offered _ came => exact Queue.eq_of_offer? came notQueued

theorem content_of_drop (stepped : traffic.step (.drop holder) = some (next, answer)) :
    answer = none ∧ next.queue.content = traffic.queue.content := by
  cases moves_of_step stepped with
  | offerGivenUp => exact ⟨rfl, rfl⟩
  | takeGivenUp => exact ⟨rfl, Queue.content_giveUp _ _⟩

/-- A cancelled call that waits for the lock or for an item ends as soon as it has its turn. -/
theorem exists_step_of_cancelled {waiting : Taking} (isCancelled : traffic.cancelled = true)
    (goesOn : traffic.callOf? holder = some (.take waiting)) (waits : waiting ≠ .ifAny) :
    ∃ next, traffic.step (.poll holder) = some (next, some (.taken none)) ∧
      next.queue.content = traffic.queue.content ∧ next.callOf? holder = none := by
  have gone (queue : Queue Item) :
      callOf? { traffic with queue, calls := traffic.callsBut holder } holder = none := by
    rw [callOf?, lookup_callsBut, if_pos rfl]
  have came : traffic.queue.take? traffic.cancelled holder waiting =
      some (.ended none, traffic.queue.giveUp waiting) := by
    rw [isCancelled]
    cases waiting with
    | lock | item => rfl
    | ifAny => exact absurd rfl waits
  refine ⟨{ traffic with queue := traffic.queue.giveUp waiting, calls := traffic.callsBut holder }, ?_, ?_, ?_⟩
  · rw [step, goesOn, Option.bind_some, poll?, came]
    rfl
  · exact Queue.content_giveUp _ _
  · exact gone _

/-- A call that waits comes back without an item only when it is cancelled or there never will be one. -/
theorem eq_nil_of_taken_none {waiting : Taking} (goesOn : traffic.callOf? holder = some (.take waiting))
    (waits : waiting ≠ .ifAny) (stepped : traffic.step (.poll holder) = some (next, some (.taken none))) :
    traffic.cancelled = true ∨ traffic.queue.offersEnded = true ∧ traffic.queue.content = [] := by
  cases moves_of_step stepped with
  | taken goesOn' came =>
    cases goesOn.symm.trans goesOn'
    rcases Queue.take?_cases came with ⟨_, _, _, _, wrong, _⟩ | ⟨isEmpty, ended, _, _⟩ | ⟨isCancelled, _⟩ |
      ⟨_, wrong, _⟩
    · cases wrong
    · rcases ended with doesNotWait | ⟨_, ended⟩
      · exact absurd doesNotWait waits
      · exact .inr ⟨ended, isEmpty⟩
    · exact .inl isCancelled
    · cases wrong

/-! ## The account of a run -/

/-- How things stand after some events, with the answers of the calls that have ended. -/
structure Account (takers : Nat) (events : List (TrafficEvent Item)) (answers : List (QueueAnswer Item))
    (traffic : Traffic Item) : Prop where
  /-- What has been queued is what has been taken, and then what is still there. -/
  queued_eq : queuedItems answers = takenItems answers ++ traffic.queue.content
  /-- There are two items for each taker at most. -/
  length_le : traffic.queue.content.length ≤ 2 * max 1 takers
  /-- When there are that many, from then on no more is queued than has been taken. -/
  full : 2 * max 1 takers ≤ traffic.queue.content.length → ∀ {later final more},
    traffic.run later = some (final, more) → (queuedItems more).length ≤ (takenItems more).length
  /-- An offer that ends without being queued leaves the queue as it is. -/
  not_queued : ∀ {event next item outcome},
    traffic.step event = some (next, some (.offered item outcome)) → outcome ≠ .queued →
      next.queue = traffic.queue
  /-- A call that is given up has no answer and leaves the items as they are. -/
  given_up : ∀ {holder next answer}, traffic.step (.drop holder) = some (next, answer) →
    answer = none ∧ next.queue.content = traffic.queue.content
  /-- Once cancelled, a call that waits ends, whether it waits for the lock or for an item, and takes nothing. -/
  cancelled : .cancel ∈ events → ∀ {holder waiting}, traffic.callOf? holder = some (.take waiting) →
    waiting ≠ .ifAny → ∃ next, traffic.step (.poll holder) = some (next, some (.taken none)) ∧
      next.queue.content = traffic.queue.content ∧ next.callOf? holder = none
  /-- Such a call comes to nothing only when it is cancelled, or when nobody offers any more and all is taken. -/
  taken_none : ∀ {holder waiting next}, traffic.callOf? holder = some (.take waiting) → waiting ≠ .ifAny →
    traffic.step (.poll holder) = some (next, some (.taken none)) →
      .cancel ∈ events ∨ .endOffers ∈ events ∧ traffic.queue.content = []
  /-- The lock belongs to the call that waits for an item. -/
  lock_owned : traffic.LockIsOwned

/-- Whatever calls of a new queue go on at the same time, its account is in order at every moment. -/
theorem account_of_run {overflow : Overflow} {takers : Nat} {queue : Queue Item}
    (created : Queue.create? overflow takers = some queue) (ran : (on queue).run events = some (traffic, answers)) :
    Account takers events answers traffic := by
  obtain ⟨room, computed, _, rfl⟩ := Queue.create?_eq_some_iff.1 created
  have roomLe : traffic.queue.capacity ≤ 2 * max 1 takers :=
    (capacity_of_run ran).trans_le (Overflow.le_of_word? computed)
  have fits : traffic.queue.content.length ≤ traffic.queue.capacity := length_le_of_run ran (Nat.zero_le room)
  have isCancelled : traffic.cancelled = true ↔ .cancel ∈ events := by
    simpa [on] using cancelled_of_run ran
  have offersEnded : traffic.queue.offersEnded = true ↔ .endOffers ∈ events := by
    simpa [on, Queue.forTakers] using offersEnded_of_run ran
  have ownedAtFirst : (on { Queue.forTakers takers with capacity := room } : Traffic Item).LockIsOwned := by
    simp [LockIsOwned, on, Queue.forTakers, callOf?]
  exact {
    queued_eq := content_of_run ran
    length_le := fits.trans roomLe
    full isFull _ _ _ ranLater := length_queuedItems_le ranLater (fits.antisymm (roomLe.trans isFull))
    not_queued := queue_of_not_queued
    given_up := content_of_drop
    cancelled happened _ _ := exists_step_of_cancelled (isCancelled.2 happened)
    taken_none goesOn waits stepped := by
      rw [← isCancelled, ← offersEnded]
      exact eq_nil_of_taken_none goesOn waits stepped
    lock_owned := ownedAtFirst.run ran }

/-- One taker. The third offer has to wait until the first item is taken, and the second call that takes an item
is cancelled while it waits for one. -/
theorem account_of_run_one_taker :
    let events : List (TrafficEvent Nat) :=
      [.call 1 (.offer 10), .poll 1, .call 1 (.offer 20), .poll 1, .call 1 (.offer 30), .call 2 (.take .lock),
        .poll 2, .poll 2, .poll 1, .call 2 (.take .lock), .poll 2, .cancel, .poll 2]
    let answers : List (QueueAnswer Nat) :=
      [.offered 10 .queued, .offered 20 .queued, .taken (some 10), .offered 30 .queued, .taken none]
    let traffic : Traffic Nat := ⟨⟨2, [20, 30], none, false, false⟩, true, []⟩
    Queue.create? .stops 1 = some (Queue.forTakers 1 : Queue Nat) ∧
      (on (Queue.forTakers 1)).run events = some (traffic, answers) ∧ Account 1 events answers traffic := by
  intro events answers traffic
  have created : Queue.create? .stops 1 = some (Queue.forTakers 1 : Queue Nat) := by decide
  have ran : (on (Queue.forTakers 1)).run events = some (traffic, answers) := by decide
  exact ⟨created, ran, account_of_run created ran⟩

end Traffic

end Telemetry
