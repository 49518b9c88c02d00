import Telemetry.Proofs.Store.Planning

/-!
# Batches and single records

A batch does to a store what its records of known types do one after another. It is refused on account of
its first invalid record, wherever that stands; and if all of them are valid, on account of the first
counter whose exact running total leaves the range.
-/

namespace Telemetry

namespace Store

/-- Applies one record. -/
def updateRecord (store : Store) (record : Record) : Except ValidationError Store :=
  record.validate.bind fun value => store.apply record.id value

/-- Applies records one after another; the first that fails ends it. -/
def updateEach (store : Store) (records : List Record) : Except ValidationError Store :=
  records.foldlM updateRecord store

/-- A counter record takes the exact total of its counter out of the range, after the records before it. -/
def Overflows (store : Store) (before : List Record) (record : Record) : Prop :=
  record.type = .known .counter ∧
    ¬Count.Fits ((store.total record.id).toInt +
      increments record.id ((before ++ [record]).filterMap Record.asked?))

/-- A counter record is the first one of a list that takes its total out of the range, and this is what is
said about it. -/
def FirstOverflow (store : Store) (records : List Record) (cause : ValidationError) : Prop :=
  ∃ before bad after, records = before ++ bad :: after ∧
    (∀ earlier record later, before = earlier ++ record :: later → ¬store.Overflows earlier record) ∧
    store.Overflows before bad ∧ cause = .counterOverflow bad.id

theorem updateEach_cons (store : Store) (record : Record) (records : List Record) :
    store.updateEach (record :: records) =
      (store.updateRecord record).bind fun next => next.updateEach records := rfl

/-- Records one after another are their updates one after another, if all of them are valid. -/
theorem updateEach_eq_ok_iff {store final : Store} {records : List Record} :
    store.updateEach records = .ok final ↔
      ∃ updates, records.mapM Record.update = .ok updates ∧ store.applyAll updates = .ok final := by
  induction records generalizing store with
  | nil =>
    constructor
    · intro nothing
      exact ⟨[], rfl, nothing⟩
    · rintro ⟨updates, planned, applied⟩
      cases planned
      exact applied
  | cons record records inductionHypothesis =>
    rw [updateEach_cons, Batch.mapM_update_cons, updateRecord, Record.update]
    cases record.validate with
    | error cause => simp [Except.bind, Except.map]
    | ok value =>
      simp only [Except.bind, Except.map]
      constructor
      · intro updated
        cases first : store.apply record.id value with
        | error cause => simp [first] at updated
        | ok next =>
          simp only [first] at updated
          obtain ⟨updates, planned, applied⟩ := inductionHypothesis.1 updated
          refine ⟨(record.id, value) :: updates, by rw [planned], ?_⟩
          exact applyAll_cons_eq_ok_iff.2 ⟨next, first, applied⟩
      · rintro ⟨updates, planned, applied⟩
        cases rest : records.mapM Record.update with
        | error cause => simp [rest] at planned
        | ok others =>
          simp only [rest, Except.ok.injEq] at planned
          subst planned
          obtain ⟨next, first, later⟩ := applyAll_cons_eq_ok_iff.1 applied
          simp only at first
          rw [first]
          exact inductionHypothesis.2 ⟨others, rest, later⟩

/-- A batch succeeds exactly when its records of known types do one after another, with the same store. -/
theorem updateBatch_eq_ok_iff {store final : Store} {records : List Record} :
    store.updateBatch records = .ok final ↔ store.updateEach (Batch.known records) = .ok final := by
  rw [updateEach_eq_ok_iff, updateBatch]
  show _ ↔ ∃ updates, Batch.plan records = .ok updates ∧ _
  cases Batch.plan records <;> simp [Except.bind]

/-! ## The first overflow -/

/-- A valid record fails exactly when it takes its total out of the range. -/
theorem apply_eq_error_iff_overflows {store : Store} {record : Record} {value : Value}
    {cause : ValidationError} (validated : record.validate = .ok value) :
    store.apply record.id value = .error cause ↔
      store.Overflows [] record ∧ cause = .counterOverflow record.id := by
  have typed := Record.type_of_validate_eq_ok validated
  have asked := Record.asked?_of_validate_eq_ok validated
  cases value with
  | gauge reading =>
    have finite := (Record.validate_eq_ok_gauge_iff.1 validated).2.2.2.2
    simp [apply_gauge_eq_error_iff, finite, Overflows, typed, Value.kind]
  | counter delta =>
    simp [apply_counter_eq_error_iff, Overflows, typed, asked, Value.kind, increment]

/-- Overflows after a record are those from the store that it leaves. -/
theorem overflows_cons_iff {store next : Store} {record bad : Record} {value : Value}
    {before : List Record} (validated : record.validate = .ok value)
    (applied : store.apply record.id value = .ok next) :
    store.Overflows (record :: before) bad ↔ next.Overflows before bad := by
  have sameTotal : (next.total bad.id).toInt =
      (store.total bad.id).toInt + increment bad.id (record.id, value) :=
    total_apply bad.id applied
  have sameIncrements : increments bad.id ((record :: before ++ [bad]).filterMap Record.asked?) =
      increment bad.id (record.id, value) +
        increments bad.id ((before ++ [bad]).filterMap Record.asked?) := by
    rw [List.cons_append, List.filterMap_cons, Record.asked?_of_validate_eq_ok validated,
      increments_cons]
  rw [Overflows, Overflows, sameTotal, sameIncrements, Int.add_assoc]

theorem firstOverflow_cons_iff_of_overflows {store : Store} {record : Record}
    {records : List Record} {cause : ValidationError} (overflows : store.Overflows [] record) :
    store.FirstOverflow (record :: records) cause ↔ cause = .counterOverflow record.id := by
  constructor
  · rintro ⟨before, bad, after, split, noneBefore, _, rfl⟩
    cases before with
    | nil =>
      obtain ⟨rfl, rfl⟩ := List.cons.inj split
      rfl
    | cons head before =>
      obtain ⟨rfl, _⟩ := List.cons.inj split
      exact absurd overflows (noneBefore [] record before rfl)
  · rintro rfl
    exact ⟨[], record, records, rfl, by simp, overflows, rfl⟩

theorem firstOverflow_cons_iff_of_ok {store next : Store} {record : Record} {value : Value}
    {records : List Record} {cause : ValidationError} (validated : record.validate = .ok value)
    (applied : store.apply record.id value = .ok next) :
    store.FirstOverflow (record :: records) cause ↔ next.FirstOverflow records cause := by
  have fits : ¬store.Overflows [] record := by
    intro overflows
    have refused := (apply_eq_error_iff_overflows validated).2 ⟨overflows, rfl⟩
    cases applied.symm.trans refused
  constructor
  · rintro ⟨before, bad, after, split, noneBefore, overflows, sameCause⟩
    cases before with
    | nil =>
      obtain ⟨rfl, rfl⟩ := List.cons.inj split
      exact absurd overflows fits
    | cons head before =>
      obtain ⟨rfl, rfl⟩ := List.cons.inj split
      refine ⟨before, bad, after, rfl, ?_, (overflows_cons_iff validated applied).1 overflows,
        sameCause⟩
      rintro earlier other later rfl laterOverflows
      exact noneBefore (record :: earlier) other later rfl
        ((overflows_cons_iff validated applied).2 laterOverflows)
  · rintro ⟨before, bad, after, rfl, noneBefore, overflows, sameCause⟩
    refine ⟨record :: before, bad, after, rfl, ?_, (overflows_cons_iff validated applied).2 overflows,
      sameCause⟩
    rintro earlier other later split laterOverflows
    cases earlier with
    | nil =>
      obtain ⟨rfl, _⟩ := List.cons.inj split
      exact fits laterOverflows
    | cons head earlier =>
      obtain ⟨rfl, rfl⟩ := List.cons.inj split
      exact noneBefore earlier other later rfl
        ((overflows_cons_iff validated applied).1 laterOverflows)

/-- Of valid records, only the first overflow is refused. -/
theorem applyAll_asked_eq_error_iff {store : Store} {records : List Record} {cause : ValidationError}
    (allValid : ∀ record ∈ records, record.Valid) :
    store.applyAll (records.filterMap Record.asked?) = .error cause ↔
      store.FirstOverflow records cause := by
  induction records generalizing store with
  | nil => simp [FirstOverflow]
  | cons record records inductionHypothesis =>
    obtain ⟨value, validated⟩ := allValid record List.mem_cons_self
    have othersValid : ∀ other ∈ records, other.Valid :=
      fun other member => allValid other (List.mem_cons_of_mem _ member)
    rw [List.filterMap_cons, Record.asked?_of_validate_eq_ok validated, applyAll_cons]
    cases applied : store.apply record.id value with
    | error reason =>
      obtain ⟨overflows, rfl⟩ := (apply_eq_error_iff_overflows validated).1 applied
      rw [firstOverflow_cons_iff_of_overflows overflows]
      simp [Except.bind, eq_comm]
    | ok next =>
      rw [firstOverflow_cons_iff_of_ok validated applied]
      exact inductionHypothesis othersValid

/-- Why a batch is refused: its first invalid record comes before any overflow. -/
theorem updateBatch_eq_error_iff {store : Store} {records : List Record} {cause : ValidationError} :
    store.updateBatch records = .error cause ↔
      Batch.FirstInvalid (Batch.known records) cause ∨
        (∀ record ∈ Batch.known records, record.Valid) ∧
          store.FirstOverflow (Batch.known records) cause := by
  unfold updateBatch
  cases planned : Batch.plan records with
  | error reason =>
    have invalid := Batch.plan_eq_error_iff.1 planned
    simp only [Except.bind, Except.error.injEq]
    constructor
    · rintro rfl
      exact .inl invalid
    · rintro (sameInvalid | ⟨allValid, _⟩)
      · exact Except.error.inj (planned.symm.trans (Batch.plan_eq_error_iff.2 sameInvalid))
      · obtain ⟨before, bad, after, split, _, badInvalid⟩ := invalid
        obtain ⟨value, validated⟩ := allValid bad (by simp [split])
        cases validated.symm.trans badInvalid
  | ok updates =>
    obtain ⟨allValid, rfl⟩ := Batch.plan_eq_ok planned
    have noInvalid : ¬Batch.FirstInvalid (Batch.known records) cause := by
      intro invalid
      cases planned.symm.trans (Batch.plan_eq_error_iff.2 invalid)
    simp only [Except.bind, noInvalid, false_or, ← Batch.filterMap_asked?_known records,
      applyAll_asked_eq_error_iff allValid]
    exact ⟨fun overflow => ⟨allValid, overflow⟩, fun refusal => refusal.2⟩

end Store

end Telemetry
