import Mathlib.Algebra.BigOperators.Group.List.Basic
import Mathlib.Algebra.Ring.Int.Defs
import Telemetry.Store.Basic

/-!
# What updates do to a store

A log of updates determines a store from the one before: the total of a counter is the old one and the
exact sum of its increments, and a gauge has the last of its values. An update is refused for one reason
only for each kind: a gauge whose value is not finite, a counter whose exact total is out of range.
-/

namespace Telemetry

namespace Count

/-- Whether a whole number is in the range of counts. -/
def Fits (value : Int) : Prop :=
  -2 ^ 63 ≤ value ∧ value ≤ 2 ^ 63 - 1

instance (value : Int) : Decidable (Fits value) :=
  inferInstanceAs (Decidable (_ ∧ _))

theorem toInt_fits (count : Count) : Fits count.toInt :=
  ⟨count.least_le, count.le_greatest⟩

theorem add?_eq_none_iff {total delta : Count} :
    total.add? delta = none ↔ ¬Fits (total.toInt + delta.toInt) := by
  rw [add?, ofInt?_eq_none_iff, Fits]
  omega

@[simp]
theorem zero_add? (delta : Count) : zero.add? delta = some delta :=
  add?_eq_some_iff.2 (Int.zero_add delta.toInt).symm

end Count

namespace Store

/-! ## What one update says about a metric -/

/-- What an update adds to the counter with a name. -/
def increment (name : String) : String × Value → Int
  | (other, .counter delta) => if other = name then delta.toInt else 0
  | (_, .gauge _) => 0

/-- The value that an update gives to the gauge with a name. -/
def reading? (name : String) : String × Value → Option Binary64
  | (other, .gauge value) => if other = name then some value else none
  | (_, .counter _) => none

/-- What updates add to the counter with a name, all in all. -/
def increments (name : String) (updates : List (String × Value)) : Int :=
  (updates.map (increment name)).sum

/-- The last value that updates give to the gauge with a name. -/
def lastReading? (name : String) (updates : List (String × Value)) : Option Binary64 :=
  (updates.filterMap (reading? name)).getLast?

@[simp]
theorem increments_nil (name : String) : increments name [] = 0 := rfl

@[simp]
theorem increments_cons (name : String) (update : String × Value)
    (updates : List (String × Value)) :
    increments name (update :: updates) = increment name update + increments name updates := by
  simp [increments]

@[simp]
theorem increments_append (name : String) (earlier later : List (String × Value)) :
    increments name (earlier ++ later) = increments name earlier + increments name later := by
  simp [increments]

theorem increment_counter_self (name : String) (delta : Count) :
    increment name (name, .counter delta) = delta.toInt :=
  if_pos rfl

@[simp]
theorem lastReading?_nil (name : String) : lastReading? name [] = none := rfl

theorem lastReading?_append (name : String) (earlier later : List (String × Value)) :
    lastReading? name (earlier ++ later) =
      (lastReading? name later).or (lastReading? name earlier) := by
  simp [lastReading?, List.getLast?_append]

theorem lastReading?_cons (name : String) (update : String × Value)
    (updates : List (String × Value)) :
    lastReading? name (update :: updates) =
      (lastReading? name updates).or (reading? name update) := by
  have asAppend := lastReading?_append name [update] updates
  rw [List.singleton_append] at asAppend
  rw [asAppend]
  congr 1
  cases found : reading? name update <;> simp [lastReading?, found]

/-! ## One update -/

theorem setGauge_eq_ok_iff {store next : Store} {name : String} {value : Binary64} :
    store.setGauge name value = .ok next ↔
      value.isFinite = true ∧ { store with gauges := store.gauges.insert name value } = next := by
  unfold setGauge Binary64.checkGauge
  split <;> simp_all [Except.map]

theorem addCounter_eq_ok_iff {store next : Store} {name : String} {delta total : Count} :
    store.addCounter name delta = .ok (next, total) ↔
      total.toInt = (store.total name).toInt + delta.toInt ∧
        { store with counters := store.counters.insert name total } = next := by
  unfold addCounter
  cases sum : (store.total name).add? delta with
  | none =>
    have outside := Count.add?_eq_none_iff.1 sum
    simp only [reduceCtorEq, false_iff, not_and]
    intro sameValue
    exact absurd (sameValue ▸ total.toInt_fits) outside
  | some found =>
    have exactSum := Count.add?_eq_some_iff.1 sum
    simp only [Except.ok.injEq, Prod.mk.injEq]
    constructor
    · rintro ⟨sameStore, rfl⟩
      exact ⟨exactSum, sameStore⟩
    · rintro ⟨sameValue, sameStore⟩
      have sameTotal : found = total := Count.ext (exactSum.trans sameValue.symm)
      subst sameTotal
      exact ⟨sameStore, rfl⟩

theorem apply_gauge_eq_ok_iff {store next : Store} {name : String} {value : Binary64} :
    store.apply name (.gauge value) = .ok next ↔
      value.isFinite = true ∧ { store with gauges := store.gauges.insert name value } = next :=
  setGauge_eq_ok_iff

theorem apply_counter_eq_ok_iff {store next : Store} {name : String} {delta : Count} :
    store.apply name (.counter delta) = .ok next ↔
      ∃ total : Count, total.toInt = (store.total name).toInt + delta.toInt ∧
        { store with counters := store.counters.insert name total } = next := by
  show (store.addCounter name delta).map Prod.fst = .ok next ↔ _
  constructor
  · intro applied
    cases added : store.addCounter name delta with
    | error cause => simp [added, Except.map] at applied
    | ok result =>
      obtain ⟨reached, total⟩ := result
      simp only [added, Except.map, Except.ok.injEq] at applied
      subst applied
      exact ⟨total, addCounter_eq_ok_iff.1 added⟩
  · rintro ⟨total, added⟩
    rw [addCounter_eq_ok_iff.2 added]
    rfl

/-- A gauge is refused for its value alone. -/
theorem apply_gauge_eq_error_iff {store : Store} {name : String} {value : Binary64}
    {cause : ValidationError} :
    store.apply name (.gauge value) = .error cause ↔
      value.isFinite = false ∧ cause = .invalidValue .gauge value.text := by
  show store.setGauge name value = .error cause ↔ _
  unfold setGauge Binary64.checkGauge
  split
  · next finite => simp [Except.map, finite]
  · next notFinite =>
    simp only [Bool.not_eq_true] at notFinite
    simp only [Except.map, Except.error.injEq, notFinite, true_and]
    exact eq_comm

/-- A counter is refused for its exact total alone. -/
theorem apply_counter_eq_error_iff {store : Store} {name : String} {delta : Count}
    {cause : ValidationError} :
    store.apply name (.counter delta) = .error cause ↔
      ¬Count.Fits ((store.total name).toInt + delta.toInt) ∧ cause = .counterOverflow name := by
  show (store.addCounter name delta).map Prod.fst = .error cause ↔ _
  rw [← Count.add?_eq_none_iff]
  unfold addCounter
  cases (store.total name).add? delta <;> simp [Except.map, eq_comm]

theorem total_apply {store next : Store} {update : String × Value} (name : String)
    (applied : store.apply update.1 update.2 = .ok next) :
    (next.total name).toInt = (store.total name).toInt + increment name update := by
  obtain ⟨updated, value⟩ := update
  cases value with
  | gauge value =>
    obtain ⟨_, rfl⟩ := apply_gauge_eq_ok_iff.1 applied
    simp [total, increment]
  | counter delta =>
    obtain ⟨sum, sameValue, rfl⟩ := apply_counter_eq_ok_iff.1 applied
    by_cases same : updated = name
    · subst same
      simpa [total, increment] using sameValue
    · simp [total, increment, same, Roster.get?_insert_of_ne _ _ same]

theorem get?_gauges_apply {store next : Store} {update : String × Value} (name : String)
    (applied : store.apply update.1 update.2 = .ok next) :
    next.gauges.get? name = (reading? name update).or (store.gauges.get? name) := by
  obtain ⟨updated, value⟩ := update
  cases value with
  | gauge value =>
    obtain ⟨_, rfl⟩ := apply_gauge_eq_ok_iff.1 applied
    by_cases same : updated = name <;> simp [reading?, Roster.get?_insert, same]
  | counter delta =>
    obtain ⟨_, _, rfl⟩ := apply_counter_eq_ok_iff.1 applied
    rfl

/-- A metric is there after an update if it was there before or is the one that was updated. -/
theorem isSome_get?_apply {store next : Store} {update : String × Value} (kind : Kind)
    (name : String) (applied : store.apply update.1 update.2 = .ok next) :
    (next.get? kind name).isSome ↔
      (store.get? kind name).isSome ∨ update.1 = name ∧ update.2.kind = kind := by
  obtain ⟨updated, value⟩ := update
  cases value with
  | gauge value =>
    obtain ⟨_, rfl⟩ := apply_gauge_eq_ok_iff.1 applied
    cases kind with
    | gauge => by_cases same : updated = name <;> simp [get?, Roster.get?_insert, Value.kind, same]
    | counter => simp [get?, Value.kind]
  | counter delta =>
    obtain ⟨_, _, rfl⟩ := apply_counter_eq_ok_iff.1 applied
    cases kind with
    | gauge => simp [get?, Value.kind]
    | counter => by_cases same : updated = name <;> simp [get?, Roster.get?_insert, Value.kind, same]

/-- An update leaves every other metric as it is: of another name, or of the other kind. -/
theorem get?_apply_of_ne {store next : Store} {update : String × Value} {kind : Kind}
    {name : String} (applied : store.apply update.1 update.2 = .ok next)
    (another : ¬(update.1 = name ∧ update.2.kind = kind)) :
    next.get? kind name = store.get? kind name := by
  obtain ⟨updated, value⟩ := update
  cases value with
  | gauge value =>
    obtain ⟨_, rfl⟩ := apply_gauge_eq_ok_iff.1 applied
    cases kind with
    | gauge =>
      have different : updated ≠ name := fun same => another ⟨same, rfl⟩
      simp [get?, Roster.get?_insert_of_ne _ _ different]
    | counter => rfl
  | counter delta =>
    obtain ⟨_, _, rfl⟩ := apply_counter_eq_ok_iff.1 applied
    cases kind with
    | gauge => rfl
    | counter =>
      have different : updated ≠ name := fun same => another ⟨same, rfl⟩
      simp [get?, Roster.get?_insert_of_ne _ _ different]

/-! ## Updates in order -/

@[simp]
theorem applyAll_nil (store : Store) : store.applyAll [] = .ok store := rfl

theorem applyAll_cons (store : Store) (update : String × Value) (updates : List (String × Value)) :
    store.applyAll (update :: updates) =
      (store.apply update.1 update.2).bind fun next => next.applyAll updates := rfl

theorem applyAll_cons_eq_ok_iff {store final : Store} {update : String × Value}
    {updates : List (String × Value)} :
    store.applyAll (update :: updates) = .ok final ↔
      ∃ next, store.apply update.1 update.2 = .ok next ∧ next.applyAll updates = .ok final := by
  rw [applyAll_cons]
  cases store.apply update.1 update.2 <;> simp [Except.bind]

theorem applyAll_append (store : Store) (earlier later : List (String × Value)) :
    store.applyAll (earlier ++ later) =
      (store.applyAll earlier).bind fun next => next.applyAll later :=
  List.foldlM_append

/-- The total of a counter is the old one and the exact sum of the increments. -/
theorem total_applyAll {store final : Store} {updates : List (String × Value)} (name : String)
    (applied : store.applyAll updates = .ok final) :
    (final.total name).toInt = (store.total name).toInt + increments name updates := by
  induction updates generalizing store with
  | nil =>
    cases applied
    simp
  | cons update updates inductionHypothesis =>
    obtain ⟨next, first, later⟩ := applyAll_cons_eq_ok_iff.1 applied
    rw [inductionHypothesis later, total_apply name first, increments_cons]
    omega

/-- A gauge has the last of the values that it was given. -/
theorem get?_gauges_applyAll {store final : Store} {updates : List (String × Value)}
    (name : String) (applied : store.applyAll updates = .ok final) :
    final.gauges.get? name = (lastReading? name updates).or (store.gauges.get? name) := by
  induction updates generalizing store with
  | nil =>
    cases applied
    rfl
  | cons update updates inductionHypothesis =>
    obtain ⟨next, first, later⟩ := applyAll_cons_eq_ok_iff.1 applied
    rw [inductionHypothesis later, get?_gauges_apply name first, lastReading?_cons, Option.or_assoc]

/-- The metrics afterwards are those before and those that were updated. -/
theorem isSome_get?_applyAll {store final : Store} {updates : List (String × Value)}
    (kind : Kind) (name : String) (applied : store.applyAll updates = .ok final) :
    (final.get? kind name).isSome ↔
      (store.get? kind name).isSome ∨ ∃ update ∈ updates, update.1 = name ∧ update.2.kind = kind := by
  induction updates generalizing store with
  | nil =>
    cases applied
    simp
  | cons update updates inductionHypothesis =>
    obtain ⟨next, first, later⟩ := applyAll_cons_eq_ok_iff.1 applied
    rw [inductionHypothesis later, isSome_get?_apply kind name first, or_assoc]
    simp

/-- Updates leave every metric as it is that none of them is about. -/
theorem get?_applyAll_of_forall_ne {store final : Store} {updates : List (String × Value)}
    {kind : Kind} {name : String} (applied : store.applyAll updates = .ok final)
    (others : ∀ update ∈ updates, ¬(update.1 = name ∧ update.2.kind = kind)) :
    final.get? kind name = store.get? kind name := by
  induction updates generalizing store with
  | nil =>
    cases applied
    rfl
  | cons update updates inductionHypothesis =>
    obtain ⟨next, first, later⟩ := applyAll_cons_eq_ok_iff.1 applied
    rw [inductionHypothesis later fun other member => others other (List.mem_cons_of_mem _ member),
      get?_apply_of_ne first (others update List.mem_cons_self)]

end Store

end Telemetry
