import Telemetry.Proofs.Store.Replay
import Telemetry.Store.Batch

/-!
# Valid records and the plans of batches

A valid record asks for one update, which its type and its number tell. The plan of a batch is the list of
these updates. A batch is refused before it touches the store on account of its first invalid record of a
known type, and while it is applied on account of the first counter whose running total leaves the range.
-/

namespace Telemetry

namespace Record

/-- A record that holds what its type asks for. -/
def Valid (record : Record) : Prop :=
  ∃ value, record.validate = .ok value

/-- The update that a record of a known type asks for by its number, whether it is valid or not. -/
def asked? (record : Record) : Option (String × Value) :=
  match record.type with
  | .known .gauge => record.value.map fun value => (record.id, .gauge value)
  | .known .counter => record.delta.map fun delta => (record.id, .counter delta)
  | .unknown _ _ => none

theorem gaugeValue_eq_ok_iff {record : Record} {value : Value} :
    record.gaugeValue = .ok value ↔
      ∃ reading, record.delta = none ∧ record.value = some reading ∧ reading.isFinite = true ∧
        .gauge reading = value := by
  obtain ⟨id, type, delta, reading⟩ := record
  cases delta with
  | some delta => simp [gaugeValue]
  | none =>
    cases reading with
    | none => simp [gaugeValue]
    | some reading =>
      simp only [gaugeValue, Binary64.checkGauge]
      split <;> simp_all [Except.map]

theorem counterValue_eq_ok_iff {record : Record} {value : Value} :
    record.counterValue = .ok value ↔
      ∃ delta, record.value = none ∧ record.delta = some delta ∧ .counter delta = value := by
  obtain ⟨id, type, delta, reading⟩ := record
  cases reading with
  | some reading => simp [counterValue]
  | none => cases delta <;> simp [counterValue]

theorem checkQuery_eq_ok_iff {record : Record} {kind : Kind} :
    record.checkQuery = .ok kind ↔ record.id ≠ "" ∧ record.type = .known kind := by
  obtain ⟨id, type, delta, reading⟩ := record
  unfold checkQuery
  split
  · next unnamed => simp [show id = "" from unnamed]
  · next named => cases type <;> simp_all

/-- What a valid gauge record is. -/
theorem validate_eq_ok_gauge_iff {record : Record} {reading : Binary64} :
    record.validate = .ok (.gauge reading) ↔
      record.id ≠ "" ∧ record.type = .known .gauge ∧ record.delta = none ∧
        record.value = some reading ∧ reading.isFinite = true := by
  unfold validate
  cases queried : record.checkQuery with
  | error cause =>
    have notQuery : ¬(record.id ≠ "" ∧ record.type = .known .gauge) := by
      rw [← checkQuery_eq_ok_iff, queried]
      simp
    simp only [reduceCtorEq, false_iff]
    rintro ⟨named, isGauge, _⟩
    exact notQuery ⟨named, isGauge⟩
  | ok kind =>
    obtain ⟨named, typed⟩ := checkQuery_eq_ok_iff.1 queried
    cases kind <;> simp [gaugeValue_eq_ok_iff, counterValue_eq_ok_iff, named, typed]

/-- What a valid counter record is. -/
theorem validate_eq_ok_counter_iff {record : Record} {delta : Count} :
    record.validate = .ok (.counter delta) ↔
      record.id ≠ "" ∧ record.type = .known .counter ∧ record.value = none ∧
        record.delta = some delta := by
  unfold validate
  cases queried : record.checkQuery with
  | error cause =>
    have notQuery : ¬(record.id ≠ "" ∧ record.type = .known .counter) := by
      rw [← checkQuery_eq_ok_iff, queried]
      simp
    simp only [reduceCtorEq, false_iff]
    rintro ⟨named, isCounter, _⟩
    exact notQuery ⟨named, isCounter⟩
  | ok kind =>
    obtain ⟨named, typed⟩ := checkQuery_eq_ok_iff.1 queried
    cases kind <;> simp [gaugeValue_eq_ok_iff, counterValue_eq_ok_iff, named, typed]

/-- A valid record names the kind of its value. -/
theorem type_of_validate_eq_ok {record : Record} {value : Value}
    (validated : record.validate = .ok value) : record.type = .known value.kind := by
  cases value with
  | gauge reading => exact (validate_eq_ok_gauge_iff.1 validated).2.1
  | counter delta => exact (validate_eq_ok_counter_iff.1 validated).2.1

theorem asked?_of_validate_eq_ok {record : Record} {value : Value}
    (validated : record.validate = .ok value) : record.asked? = some (record.id, value) := by
  cases value with
  | gauge reading =>
    obtain ⟨_, typed, _, number, _⟩ := validate_eq_ok_gauge_iff.1 validated
    simp [asked?, typed, number]
  | counter delta =>
    obtain ⟨_, typed, _, number⟩ := validate_eq_ok_counter_iff.1 validated
    simp [asked?, typed, number]

/-- What a record asks for is of its name and of the kind of its type. -/
theorem id_and_type_of_asked?_eq_some {record : Record} {update : String × Value}
    (asked : record.asked? = some update) :
    record.id = update.1 ∧ record.type = .known update.2.kind := by
  obtain ⟨id, type, delta, reading⟩ := record
  cases type with
  | known kind =>
    cases kind with
    | gauge =>
      obtain ⟨value, _, rfl⟩ := Option.map_eq_some_iff.1 asked
      exact ⟨rfl, rfl⟩
    | counter =>
      obtain ⟨count, _, rfl⟩ := Option.map_eq_some_iff.1 asked
      exact ⟨rfl, rfl⟩
  | unknown name nameOfNone => cases asked

theorem asked?_of_not_hasKnownType {record : Record} (unknown : record.hasKnownType = false) :
    record.asked? = none := by
  obtain ⟨id, type, delta, reading⟩ := record
  cases type with
  | known kind => simp [hasKnownType, RecordType.kind?] at unknown
  | unknown name nameOfNone => rfl

theorem update_eq_ok_iff {record : Record} {update : String × Value} :
    record.update = .ok update ↔ record.validate = .ok update.2 ∧ record.id = update.1 := by
  obtain ⟨name, value⟩ := update
  unfold Record.update
  cases record.validate <;> simp [Except.map, and_comm]

theorem update_eq_error_iff {record : Record} {cause : ValidationError} :
    record.update = .error cause ↔ record.validate = .error cause := by
  unfold Record.update
  cases record.validate <;> simp [Except.map]

end Record

namespace Batch

/-- The records of a batch that it does not pass over. -/
def known (records : List Record) : List Record :=
  records.filter Record.hasKnownType

/-- A record is the first invalid one of a list, and this is why. -/
def FirstInvalid (records : List Record) (cause : ValidationError) : Prop :=
  ∃ before bad after, records = before ++ bad :: after ∧ (∀ record ∈ before, record.Valid) ∧
    bad.validate = .error cause

theorem mapM_update_cons (record : Record) (records : List Record) :
    (record :: records).mapM Record.update =
      record.update.bind fun update => (records.mapM Record.update).map (update :: ·) := by
  rw [List.mapM_cons]
  cases record.update with
  | error cause => rfl
  | ok update => cases records.mapM Record.update <;> rfl

theorem mapM_update_eq_ok {records : List Record} {updates : List (String × Value)}
    (planned : records.mapM Record.update = .ok updates) :
    (∀ record ∈ records, record.Valid) ∧ records.filterMap Record.asked? = updates := by
  induction records generalizing updates with
  | nil =>
    cases planned
    simp
  | cons record records inductionHypothesis =>
    rw [mapM_update_cons] at planned
    cases first : record.update with
    | error cause => simp [first, Except.bind] at planned
    | ok update =>
      cases rest : records.mapM Record.update with
      | error cause => simp [first, rest, Except.bind, Except.map] at planned
      | ok others =>
        simp only [first, rest, Except.bind, Except.map, Except.ok.injEq] at planned
        subst planned
        obtain ⟨validated, sameName⟩ := Record.update_eq_ok_iff.1 first
        obtain ⟨othersValid, sameOthers⟩ := inductionHypothesis rest
        constructor
        · rintro other member
          rcases List.mem_cons.1 member with isFirst | inRest
          · exact ⟨update.2, isFirst ▸ validated⟩
          · exact othersValid other inRest
        · rw [List.filterMap_cons, Record.asked?_of_validate_eq_ok validated, sameName, sameOthers]

theorem mapM_update_eq_error_iff {records : List Record} {cause : ValidationError} :
    records.mapM Record.update = .error cause ↔ FirstInvalid records cause := by
  induction records with
  | nil => simp [FirstInvalid, pure, Except.pure]
  | cons record records inductionHypothesis =>
    rw [mapM_update_cons]
    cases first : record.update with
    | error other =>
      have invalid := Record.update_eq_error_iff.1 first
      simp only [Except.bind, Except.error.injEq]
      constructor
      · rintro rfl
        exact ⟨[], record, records, rfl, by simp, invalid⟩
      · rintro ⟨before, bad, after, split, allValid, badInvalid⟩
        cases before with
        | nil =>
          obtain ⟨rfl, rfl⟩ := List.cons.inj split
          exact Except.error.inj (invalid.symm.trans badInvalid)
        | cons head before =>
          obtain ⟨rfl, rfl⟩ := List.cons.inj split
          obtain ⟨value, validated⟩ := allValid record List.mem_cons_self
          cases invalid.symm.trans validated
    | ok update =>
      obtain ⟨validated, _⟩ := Record.update_eq_ok_iff.1 first
      have sameRest : ((records.mapM Record.update).map (update :: ·) = .error cause) ↔
          FirstInvalid records cause := by
        rw [← inductionHypothesis]
        cases records.mapM Record.update <;> simp [Except.map]
      simp only [Except.bind, sameRest]
      constructor
      · rintro ⟨before, bad, after, rfl, allValid, badInvalid⟩
        refine ⟨record :: before, bad, after, rfl, ?_, badInvalid⟩
        intro other member
        rcases List.mem_cons.1 member with isFirst | inBefore
        · exact ⟨update.2, isFirst ▸ validated⟩
        · exact allValid other inBefore
      · rintro ⟨before, bad, after, split, allValid, badInvalid⟩
        cases before with
        | nil =>
          obtain ⟨rfl, rfl⟩ := List.cons.inj split
          cases validated.symm.trans badInvalid
        | cons head before =>
          obtain ⟨rfl, rfl⟩ := List.cons.inj split
          exact ⟨before, bad, after, rfl,
            fun other member => allValid other (List.mem_cons_of_mem _ member), badInvalid⟩

theorem filterMap_asked?_known (records : List Record) :
    (known records).filterMap Record.asked? = records.filterMap Record.asked? := by
  unfold known
  induction records with
  | nil => rfl
  | cons record records inductionHypothesis =>
    cases hasKnown : record.hasKnownType with
    | true => simp [hasKnown, List.filterMap_cons, inductionHypothesis]
    | false =>
      simp [hasKnown, Record.asked?_of_not_hasKnownType hasKnown, inductionHypothesis]

/-- The plan of a batch holds the updates that its records ask for. -/
theorem plan_eq_ok {records : List Record} {updates : List (String × Value)}
    (planned : plan records = .ok updates) :
    (∀ record ∈ known records, record.Valid) ∧ records.filterMap Record.asked? = updates := by
  obtain ⟨allValid, sameUpdates⟩ := mapM_update_eq_ok planned
  rw [← filterMap_asked?_known]
  exact ⟨allValid, sameUpdates⟩

/-- A batch has no plan exactly on account of the first invalid record of a known type. -/
theorem plan_eq_error_iff {records : List Record} {cause : ValidationError} :
    plan records = .error cause ↔ FirstInvalid (known records) cause :=
  mapM_update_eq_error_iff

/-- Of valid records, a batch always has a plan. -/
theorem plan_of_valid {records : List Record} (allValid : ∀ record ∈ records, record.Valid) :
    plan records = .ok (records.filterMap Record.asked?) := by
  cases planned : plan records with
  | ok updates => rw [(plan_eq_ok planned).2]
  | error cause =>
    obtain ⟨before, bad, after, split, _, refused⟩ := plan_eq_error_iff.1 planned
    have listed : bad ∈ known records := by simp [split]
    obtain ⟨value, validated⟩ := allValid bad (List.mem_filter.1 listed).1
    cases validated.symm.trans refused

end Batch

end Telemetry
