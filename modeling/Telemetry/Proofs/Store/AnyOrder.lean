import Mathlib.Algebra.Order.BigOperators.Group.Multiset
import Telemetry.Proofs.Store.MemoryCalls

/-!
# Increments in any order

What a counter is given comes to the same in any order. But an increment that would take the total out of its
range is refused, and so the order can decide which increments are made. It does not where there is room for
all of them that go up, and for all that go down: no total on the way is above the first or below the second.
Then calls that make the increments, one at a time or many at once, are all accepted and leave one store,
however the increments are ordered and divided among them.
-/

namespace Telemetry

namespace Store

variable {store next : Store} {name : String} {delta : Count} {deltas others : Multiset (String × Count)}
  {part : List (String × Count)}

/-! ## Room for increments -/

/-- What increments come to for the counter with a name, where so much of each counts. -/
def sumOf (weight : Int → Int) (name : String) (deltas : Multiset (String × Count)) : Int :=
  (deltas.map fun delta => if delta.1 = name then weight delta.2.toInt else 0).sum

/-- Every counter has room for all of the increments that go up, and for all that go down. -/
def HasRoom (store : Store) (deltas : Multiset (String × Count)) : Prop :=
  ∀ name, Count.Fits ((store.total name).toInt + sumOf (max 0) name deltas) ∧
    Count.Fits ((store.total name).toInt + sumOf (min 0) name deltas)

@[simp]
theorem sumOf_zero (weight : Int → Int) (name : String) : sumOf weight name 0 = 0 := rfl

@[simp]
theorem sumOf_cons (weight : Int → Int) (name : String) (delta : String × Count)
    (deltas : Multiset (String × Count)) :
    sumOf weight name (delta ::ₘ deltas) =
      (if delta.1 = name then weight delta.2.toInt else 0) + sumOf weight name deltas := by
  rw [sumOf, Multiset.map_cons, Multiset.sum_cons, sumOf]

theorem sumOf_max_nonneg (name : String) (deltas : Multiset (String × Count)) :
    0 ≤ sumOf (max 0) name deltas := by
  apply Multiset.sum_nonneg
  intro value member
  obtain ⟨delta, _, rfl⟩ := Multiset.mem_map.1 member
  split <;> simp

theorem sumOf_min_nonpos (name : String) (deltas : Multiset (String × Count)) :
    sumOf (min 0) name deltas ≤ 0 := by
  induction deltas using Multiset.induction with
  | empty => rfl
  | cons delta deltas inductionHypothesis =>
    rw [sumOf_cons]
    split <;> omega

/-- An increment for which there is room among others is made, and leaves room for the others. -/
theorem HasRoom.apply (room : store.HasRoom ((name, delta) ::ₘ others)) :
    ∃ next, store.apply name (.counter delta) = .ok next ∧ next.HasRoom others := by
  -- The others go up and down by so much at most, and on the way by no more.
  have up := fun other => sumOf_max_nonneg other others
  have down := fun other => sumOf_min_nonpos other others
  simp only [HasRoom, sumOf_cons, Count.Fits] at room
  cases applied : store.apply name (.counter delta) with
  | error cause =>
    obtain ⟨outside, _⟩ := apply_counter_eq_error_iff.1 applied
    have own := room name
    rw [if_pos rfl, if_pos rfl] at own
    have upOwn := up name
    have downOwn := down name
    exact absurd ⟨by omega, by omega⟩ outside
  | ok next =>
    refine ⟨next, rfl, fun other => ?_⟩
    have grown : (next.total other).toInt =
        (store.total other).toInt + increment other (name, .counter delta) := total_apply other applied
    have own := room other
    have upOther := up other
    have downOther := down other
    rw [increment] at grown
    unfold Count.Fits
    by_cases same : name = other
    · rw [if_pos same, if_pos same] at own
      rw [if_pos same] at grown
      omega
    · rw [if_neg same, if_neg same] at own
      rw [if_neg same] at grown
      omega

/-- Increments as updates, in order. -/
def counterUpdates (part : List (String × Count)) : List (String × Value) :=
  part.map fun delta => (delta.1, .counter delta.2)

/-- Increments for which there is room among others are all made, and leave room for the others. -/
theorem HasRoom.applyAll (room : store.HasRoom (part + others)) :
    ∃ next, store.applyAll (counterUpdates part) = .ok next ∧ next.HasRoom others := by
  induction part generalizing store with
  | nil => exact ⟨store, rfl, by simpa using room⟩
  | cons delta part inductionHypothesis =>
    rw [← Multiset.cons_coe, Multiset.cons_add] at room
    obtain ⟨middle, first, roomLeft⟩ := room.apply
    obtain ⟨next, later, roomAfter⟩ := inductionHypothesis roomLeft
    exact ⟨next, applyAll_cons_eq_ok_iff.2 ⟨middle, first, later⟩, roomAfter⟩

/-! ## The store that increments leave -/

theorem increments_counterUpdates (name : String) (part : List (String × Count)) :
    increments name (counterUpdates part) = sumOf id name part := by
  induction part with
  | nil => rfl
  | cons delta part inductionHypothesis =>
    rw [← Multiset.cons_coe, sumOf_cons, ← inductionHypothesis]
    exact increments_cons name _ _

/-- A store before and after increments: they touch counters alone, each of these by the exact sum, and there
are no others afterwards than those that were there before or are named by an increment. -/
structure GrowsBy (store : Store) (deltas : Multiset (String × Count)) (final : Store) : Prop where
  gauges : final.gauges = store.gauges
  total : ∀ name, (final.total name).toInt = (store.total name).toInt + sumOf id name deltas
  isSome_iff : ∀ name, (final.counters.get? name).isSome ↔
    (store.counters.get? name).isSome ∨ ∃ delta ∈ deltas, delta.1 = name

theorem growsBy_of_applyAll (applied : store.applyAll (counterUpdates part) = .ok next) :
    store.GrowsBy part next := by
  refine ⟨?_, fun name => ?_, fun name => ?_⟩
  · apply Roster.ext_get?
    intro name
    have same : next.get? .gauge name = store.get? .gauge name := by
      apply get?_applyAll_of_forall_ne applied
      rintro update listed ⟨_, isGauge⟩
      obtain ⟨delta, _, rfl⟩ := List.mem_map.1 listed
      cases isGauge
    exact Option.map_injective (fun _ _ => Value.gauge.inj) same
  · rw [total_applyAll name applied, increments_counterUpdates]
  · have present := isSome_get?_applyAll .counter name applied
    simpa [get?, counterUpdates, Value.kind] using present

/-- The value under a name is the total, if there is one. -/
theorem get?_counters_eq (store : Store) (name : String) :
    store.counters.get? name =
      if (store.counters.get? name).isSome then some (store.total name) else none := by
  rw [total]
  cases store.counters.get? name <;> rfl

/-- Increments leave one store only. -/
theorem GrowsBy.unique {first second : Store} (isFirst : store.GrowsBy deltas first)
    (isSecond : store.GrowsBy deltas second) : first = second := by
  refine Store.ext (isFirst.gauges.trans isSecond.gauges.symm) ?_
  apply Roster.ext_get?
  intro name
  have sameTotal : first.total name = second.total name :=
    Count.ext ((isFirst.total name).trans (isSecond.total name).symm)
  have samePresence := (isFirst.isSome_iff name).trans (isSecond.isSome_iff name).symm
  rw [get?_counters_eq first, get?_counters_eq second, sameTotal]
  simp only [samePresence]

end Store

/-! ## Calls that make increments -/

namespace StorageCall

/-- A call that makes increments: one of them by itself, or any number of them as a batch. -/
inductive Adds : StorageCall → List (String × Count) → Prop
  | updateCounter (name : String) (delta : Count) : Adds (.updateCounter name delta) [(name, delta)]
  | updateBatch (part : List (String × Count)) :
    Adds (.updateBatch (part.map fun delta => Record.counter delta.1 delta.2)) part

/-- Calls that make increments among them, each increment once. -/
inductive Divide : List StorageCall → Multiset (String × Count) → Prop
  | nil : Divide [] 0
  | cons {call : StorageCall} {part : List (String × Count)} {calls : List StorageCall}
    {others : Multiset (String × Count)} (first : call.Adds part) (rest : Divide calls others) :
    Divide (call :: calls) (part + others)

/-- A call that makes increments of counters with names does to a store what these do one after another. -/
theorem Adds.afterCall {call : StorageCall} {part : List (String × Count)} (adds : call.Adds part)
    (named : ∀ delta ∈ part, delta.1 ≠ "") (store : Store) :
    store.afterCall call = store.applyAll (Store.counterUpdates part) := by
  cases adds with
  | updateCounter name delta =>
    rw [Store.counterUpdates, List.map_singleton, Store.applyAll_cons]
    change store.apply name (.counter delta) = (store.apply name (.counter delta)).bind Except.ok
    cases store.apply name (.counter delta) <;> rfl
  | updateBatch part =>
    have allValid : ∀ record ∈ part.map (fun delta => Record.counter delta.1 delta.2), record.Valid := by
      intro record listed
      obtain ⟨delta, isDelta, rfl⟩ := List.mem_map.1 listed
      exact ⟨_, Record.validate_eq_ok_counter_iff.2 ⟨named delta isDelta, rfl, rfl, rfl⟩⟩
    change (Batch.plan _).bind store.applyAll = _
    rw [Batch.plan_of_valid allValid, List.filterMap_map, Store.counterUpdates, ← List.filterMap_eq_map]
    rfl

theorem Adds.isRead {call : StorageCall} {part : List (String × Count)} (adds : call.Adds part) :
    call.isRead = false := by
  cases adds <;> rfl

/-- One batch makes any increments. -/
theorem exists_divide (deltas : Multiset (String × Count)) : ∃ calls, Divide calls deltas := by
  have divide : Divide _ (deltas.toList + 0) := .cons (.updateBatch deltas.toList) .nil
  rw [Multiset.add_zero, Multiset.coe_toList] at divide
  exact ⟨_, divide⟩

end StorageCall

namespace MemoryStorage

open StorageCall (Divide)

variable {storage : MemoryStorage} {calls : List StorageCall} {deltas : Multiset (String × Count)}

theorem perform_of_afterCall {call : StorageCall} {next : Store} (writes : call.isRead = false)
    (called : storage.store.afterCall call = .ok next) :
    (∃ answer, (backend.perform call storage).result = .ok answer) ∧
      (backend.perform call storage).world.store = next := by
  rw [perform_result, perform_world, called, writes]
  exact ⟨⟨_, rfl⟩, settle_ok_store storage next⟩

/-- Calls that make increments for which there is room are all accepted, and the store has grown by these
increments. -/
theorem performAll_of_divide (divide : Divide calls deltas) (named : ∀ delta ∈ deltas, delta.1 ≠ "")
    (room : storage.store.HasRoom deltas) :
    (∀ answer ∈ (backend.performAll storage calls).2, ∃ success, answer = .ok success) ∧
      storage.store.GrowsBy deltas (backend.performAll storage calls).1.store := by
  suffices replayed : (∀ answer ∈ (backend.performAll storage calls).2, ∃ success, answer = .ok success) ∧
      ∃ part : List (String × Count), deltas = part ∧ storage.store.applyAll (Store.counterUpdates part) =
        .ok (backend.performAll storage calls).1.store by
    obtain ⟨accepted, part, rfl, applied⟩ := replayed
    exact ⟨accepted, Store.growsBy_of_applyAll applied⟩
  induction divide generalizing storage with
  | nil => exact ⟨fun _ listed => absurd listed List.not_mem_nil, [], rfl, rfl⟩
  | @cons call first calls others adds _ inductionHypothesis =>
    obtain ⟨next, applied, roomLeft⟩ := room.applyAll
    have called : storage.store.afterCall call = .ok next := by
      rw [adds.afterCall fun delta listed => named delta (Multiset.mem_add.2 (.inl listed)), applied]
    obtain ⟨answered, reached⟩ := perform_of_afterCall adds.isRead called
    rw [← reached] at roomLeft
    obtain ⟨accepted, part, rfl, others⟩ := inductionHypothesis
      (fun delta listed => named delta (Multiset.mem_add.2 (.inr listed))) roomLeft
    refine ⟨?_, first ++ part, rfl, ?_⟩
    · intro answer listed
      rcases List.mem_cons.1 listed with rfl | later
      · exact answered
      · exact accepted answer later
    · rw [Store.counterUpdates, List.map_append, Store.applyAll_append]
      change (storage.store.applyAll (Store.counterUpdates first)).bind _ = _
      rw [applied, ← reached]
      exact others

/-- Increments for which there is room are all made, in whatever order they come, however they are divided among
calls and whoever makes these, and all such calls leave one store: the one before, grown by the increments. -/
theorem makes_increments_in_any_order (storage : MemoryStorage) (deltas : Multiset (String × Count))
    (named : ∀ delta ∈ deltas, delta.1 ≠ "") (room : storage.store.HasRoom deltas) :
    ∃ final, storage.store.GrowsBy deltas final ∧ ∀ calls, Divide calls deltas →
      (∀ answer ∈ (backend.performAll storage calls).2, ∃ success, answer = .ok success) ∧
        (backend.performAll storage calls).1.store = final := by
  obtain ⟨calls, divide⟩ := StorageCall.exists_divide deltas
  refine ⟨_, (performAll_of_divide divide named room).2, fun other divideOther => ?_⟩
  obtain ⟨accepted, grows⟩ := performAll_of_divide divideOther named room
  exact ⟨accepted, grows.unique (performAll_of_divide divide named room).2⟩

/-- A counter with just enough room for what goes up gets all of its increments, whether the one that goes down
comes first or last. -/
theorem makes_increments_in_any_order_to_the_top :
    let two : Count := ⟨2, by decide, by decide⟩
    let minusFive : Count := ⟨-5, by decide, by decide⟩
    let held : Count := ⟨2 ^ 63 - 3, by decide, by decide⟩
    let storage : MemoryStorage := ⟨⟨Roster.empty, Roster.ofList [("hits", held)]⟩, none, Disk.empty⟩
    let deltas : Multiset (String × Count) := {("hits", two), ("misses", two), ("hits", minusFive)}
    let upFirst : List StorageCall :=
      [.updateBatch [.counter "hits" two, .counter "misses" two], .updateCounter "hits" minusFive]
    let downFirst : List StorageCall :=
      [.updateCounter "hits" minusFive, .updateCounter "misses" two, .updateCounter "hits" two]
    (∀ delta ∈ deltas, delta.1 ≠ "") ∧ storage.store.HasRoom deltas ∧
      Divide upFirst deltas ∧ Divide downFirst deltas ∧
      (backend.performAll storage upFirst).1.store = (backend.performAll storage downFirst).1.store ∧
      ((backend.performAll storage upFirst).1.store.total "hits").toInt = 2 ^ 63 - 6 := by
  intro two minusFive held storage deltas upFirst downFirst
  have named : ∀ delta ∈ deltas, delta.1 ≠ "" := by decide
  have room : storage.store.HasRoom deltas := by
    intro name
    by_cases isHits : name = "hits"
    · subst isHits
      decide
    · by_cases isMisses : name = "misses"
      · subst isMisses
        decide
      · have untouched : ∀ weight, Store.sumOf weight name deltas = 0 := by
          intro weight
          simp [deltas, Store.sumOf, Ne.symm isHits, Ne.symm isMisses]
        rw [untouched, untouched, Int.add_zero]
        exact ⟨Count.toInt_fits _, Count.toInt_fits _⟩
  have up : Divide upFirst deltas :=
    .cons (.updateBatch [("hits", two), ("misses", two)]) (.cons (.updateCounter "hits" minusFive) .nil)
  have down : Divide downFirst deltas := by
    have divide : Divide downFirst {("hits", minusFive), ("misses", two), ("hits", two)} :=
      .cons (.updateCounter _ _) (.cons (.updateCounter _ _) (.cons (.updateCounter _ _) .nil))
    have same : {("hits", minusFive), ("misses", two), ("hits", two)} = deltas := by decide
    exact same ▸ divide
  obtain ⟨final, grows, leaves⟩ := makes_increments_in_any_order storage deltas named room
  refine ⟨named, room, up, down, (leaves _ up).2.trans (leaves _ down).2.symm, ?_⟩
  rw [(leaves _ up).2, grows.total]
  decide

end MemoryStorage

end Telemetry
