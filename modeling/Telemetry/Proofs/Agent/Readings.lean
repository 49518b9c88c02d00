import Telemetry.Agent.Readings
import Telemetry.Proofs.Metric.Wire
import Telemetry.Proofs.Store.Refusal

/-!
# Batches of readings

An agent records what it reads under names that are not empty, and leaves out what is not finite. So all
records of its batches are valid, and the store of a collector takes such a batch if the number of polls
fits into its total. Then it holds the readings of the agent, in place of its own of the same names.
-/

namespace Telemetry

namespace Readings

/-- The readings after a history of samples, each with whether it counts as a poll. -/
def ofHistory (history : List (Sample × Bool)) : Readings :=
  history.foldl (fun readings (sample, countsPoll) => readings.record sample countsPoll) empty

/-- Every reading that is kept has a name and is finite. -/
def AllValid (readings : Readings) : Prop :=
  ∀ entry ∈ readings.gauges.entries, entry.1 ≠ "" ∧ entry.2.isFinite = true

theorem allValid_record {readings : Readings} (allValid : readings.AllValid) {sample : Sample}
    (named : ∀ reading ∈ sample, reading.1 ≠ "") (countsPoll : Bool) :
    (readings.record sample countsPoll).AllValid := by
  apply List.foldlRecOn (motive := fun gauges : Roster Binary64 =>
    ∀ entry ∈ gauges.entries, entry.1 ≠ "" ∧ entry.2.isFinite = true)
  · exact allValid
  · intro gauges kept reading listed entry isEntry
    obtain ⟨isReading, finite⟩ := List.mem_filter.1 listed
    rcases Roster.mem_place isEntry with rfl | old
    · exact ⟨named reading isReading, finite⟩
    · exact kept entry old

theorem allValid_ofHistory {history : List (Sample × Bool)}
    (named : ∀ step ∈ history, ∀ reading ∈ step.1, reading.1 ≠ "") : (ofHistory history).AllValid := by
  apply List.foldlRecOn (motive := AllValid)
  · simp [AllValid, empty, Roster.empty]
  · intro readings allValid step listed
    exact allValid_record allValid (named step listed) step.2

variable {readings : Readings}

/-! ## The records of a batch -/

theorem isFinite_of_mem_batch (allValid : readings.AllValid) {record : Record}
    (listed : record ∈ readings.batch) : record.IsFinite := by
  rcases List.mem_append.1 listed with gauge | poll
  · obtain ⟨entry, isEntry, rfl⟩ := List.mem_map.1 gauge
    intro value isValue
    cases isValue
    exact (allValid entry isEntry).2
  · rw [List.mem_singleton.1 poll]
    exact nofun

theorem validate_gauge {name : String} {value : Binary64} (named : name ≠ "")
    (finite : value.isFinite = true) : (Record.gauge name value).validate = .ok (.gauge value) :=
  Record.validate_eq_ok_gauge_iff.2 ⟨named, rfl, rfl, rfl, finite⟩

theorem validate_pollRecord (readings : Readings) :
    readings.pollRecord.validate = .ok (.counter (Count.nearest readings.polls)) := by
  have named : pollCounter ≠ "" := by decide
  exact Record.validate_eq_ok_counter_iff.2 ⟨named, rfl, rfl, rfl⟩

/-- Every record of a batch is valid. -/
theorem valid_of_mem_batch (allValid : readings.AllValid) {record : Record}
    (listed : record ∈ readings.batch) : record.Valid := by
  rcases List.mem_append.1 listed with gauge | poll
  · obtain ⟨entry, isEntry, rfl⟩ := List.mem_map.1 gauge
    exact ⟨_, validate_gauge (allValid entry isEntry).1 (allValid entry isEntry).2⟩
  · rw [List.mem_singleton.1 poll]
    exact ⟨_, validate_pollRecord readings⟩

/-! ## The updates of a batch -/

/-- The updates that the records of the gauges ask for. -/
def gaugeUpdates (entries : List (String × Binary64)) : List (String × Value) :=
  entries.map fun (name, value) => (name, .gauge value)

/-- The updates that a batch asks for. -/
def updates (readings : Readings) : List (String × Value) :=
  gaugeUpdates readings.gauges.entries ++ [(pollCounter, .counter (Count.nearest readings.polls))]

theorem filterMap_asked?_gaugeRecords (readings : Readings) :
    readings.gaugeRecords.filterMap Record.asked? = gaugeUpdates readings.gauges.entries := by
  rw [gaugeRecords, List.filterMap_map, gaugeUpdates, ← List.filterMap_eq_map]
  rfl

theorem filterMap_asked?_batch (readings : Readings) :
    readings.batch.filterMap Record.asked? = readings.updates := by
  rw [batch, List.filterMap_append, filterMap_asked?_gaugeRecords]
  rfl

/-- Gauges add nothing to any counter. -/
theorem increments_gaugeUpdates (entries : List (String × Binary64)) (name : String) :
    Store.increments name (gaugeUpdates entries) = 0 := by
  induction entries with
  | nil => rfl
  | cons entry entries inductionHypothesis =>
    rw [gaugeUpdates, List.map_cons, Store.increments_cons]
    exact (Int.zero_add _).trans inductionHypothesis

theorem increments_updates (inRange : readings.polls < 2 ^ 63) (name : String) :
    Store.increments name readings.updates =
      if pollCounter = name then (readings.polls : Int) else 0 := by
  rw [updates, Store.increments_append, increments_gaugeUpdates]
  simp [Store.increment, Count.toInt_nearest inRange]

/-- No name comes twice, so the last reading of a name is the only one. -/
theorem lastReading?_gaugeUpdates {entries : List (String × Binary64)}
    (ascending : entries.Pairwise fun first second => first.1 < second.1) (name : String) :
    Store.lastReading? name (gaugeUpdates entries) = Roster.lookup name entries := by
  induction entries with
  | nil => rfl
  | cons entry entries inductionHypothesis =>
    obtain ⟨below, others⟩ := List.pairwise_cons.1 ascending
    have later := inductionHypothesis others
    rw [gaugeUpdates, List.map_cons, Store.lastReading?_cons]
    change (Store.lastReading? name (gaugeUpdates entries)).or _ = _
    rw [later, Roster.lookup]
    by_cases same : entry.1 = name
    · have absent : Roster.lookup name entries = none := by
        by_contra present
        have listed : name ∈ (Roster.mk entries others).names :=
          Roster.mem_names_iff.2 (Option.isSome_iff_ne_none.2 present)
        obtain ⟨other, isEntry, sameName⟩ := List.mem_map.1 listed
        exact String.lt_irrefl name (by simpa [same, sameName] using below other isEntry)
      rw [absent, if_pos same]
      exact if_pos same
    · rw [if_neg same, Store.reading?, if_neg same, Option.or_none]

theorem lastReading?_updates (readings : Readings) (name : String) :
    Store.lastReading? name readings.updates = readings.gauges.get? name := by
  rw [updates, Store.lastReading?_append, lastReading?_gaugeUpdates readings.gauges.ascending]
  rfl

/-! ## The batch in the store -/

theorem plan_batch (allValid : readings.AllValid) :
    Batch.plan readings.batch = .ok readings.updates := by
  rw [Batch.plan_of_valid fun record listed => valid_of_mem_batch allValid listed, filterMap_asked?_batch]

/-- Finite readings are never refused. -/
theorem exists_applyAll_gaugeUpdates {entries : List (String × Binary64)}
    (finite : ∀ entry ∈ entries, entry.2.isFinite = true) (store : Store) :
    ∃ next, store.applyAll (gaugeUpdates entries) = .ok next := by
  induction entries generalizing store with
  | nil => exact ⟨store, rfl⟩
  | cons entry entries inductionHypothesis =>
    have applied : store.apply entry.1 (.gauge entry.2) = .ok _ :=
      Store.apply_gauge_eq_ok_iff.2 ⟨finite entry List.mem_cons_self, rfl⟩
    obtain ⟨next, appliedAll⟩ := inductionHypothesis
      (fun other listed => finite other (List.mem_cons_of_mem _ listed)) _
    exact ⟨next, Store.applyAll_cons_eq_ok_iff.2 ⟨_, applied, appliedAll⟩⟩

/-- The store takes the updates of a batch if the number of polls fits into its total: no other counter
occurs in them. -/
theorem exists_applyAll_updates (allValid : readings.AllValid) (inRange : readings.polls < 2 ^ 63)
    {store : Store} (room : Count.Fits ((store.total pollCounter).toInt + readings.polls)) :
    ∃ final, store.applyAll readings.updates = .ok final := by
  obtain ⟨next, gaugesApplied⟩ := exists_applyAll_gaugeUpdates
    (fun entry listed => (allValid entry listed).2) store
  have sameTotal : (next.total pollCounter).toInt = (store.total pollCounter).toInt := by
    rw [Store.total_applyAll pollCounter gaugesApplied, increments_gaugeUpdates, Int.add_zero]
  obtain ⟨total, isSum⟩ : ∃ total : Count,
      total.toInt = (next.total pollCounter).toInt + (Count.nearest readings.polls).toInt := by
    rw [sameTotal, Count.toInt_nearest inRange]
    exact ⟨⟨_, room.1, room.2⟩, rfl⟩
  have pollsApplied := Store.apply_counter_eq_ok_iff.2 ⟨total, isSum, rfl⟩
  have appliedAll : next.applyAll [(pollCounter, .counter (Count.nearest readings.polls))] = .ok _ :=
    Store.applyAll_cons_eq_ok_iff.2 ⟨_, pollsApplied, rfl⟩
  rw [updates, Store.applyAll_append, gaugesApplied]
  exact ⟨_, appliedAll⟩

/-- The store takes a batch of readings if the number of polls fits into its total. Then it has the readings
in place of its own, the polls are added to their counter, and all else is as before. -/
theorem updateBatch_batch (allValid : readings.AllValid) (inRange : readings.polls < 2 ^ 63)
    {store : Store} (room : Count.Fits ((store.total pollCounter).toInt + readings.polls)) :
    ∃ final, store.updateBatch readings.batch = .ok final ∧
      (∀ name, final.gauges.get? name = (readings.gauges.get? name).or (store.gauges.get? name)) ∧
      (∃ total, final.counters.get? pollCounter = some total ∧
        total.toInt = (store.total pollCounter).toInt + readings.polls) ∧
      ∀ name, name ≠ pollCounter → final.counters.get? name = store.counters.get? name := by
  obtain ⟨final, applied⟩ := exists_applyAll_updates allValid inRange room
  refine ⟨final, ?_, ?_, ?_, ?_⟩
  · rw [Store.updateBatch, plan_batch allValid]
    exact applied
  · intro name
    rw [Store.get?_gauges_applyAll name applied, lastReading?_updates]
  · have present : (final.get? .counter pollCounter).isSome :=
      (Store.isSome_get?_applyAll .counter pollCounter applied).2
        (.inr ⟨(pollCounter, .counter (Count.nearest readings.polls)), by simp [updates], rfl, rfl⟩)
    obtain ⟨total, isTotal⟩ := Option.isSome_iff_exists.1 (Option.isSome_map.symm.trans present)
    have grown := Store.total_applyAll pollCounter applied
    rw [increments_updates inRange, if_pos rfl, Store.total, isTotal] at grown
    exact ⟨total, isTotal, grown⟩
  · intro name another
    have same : final.get? .counter name = store.get? .counter name := by
      apply Store.get?_applyAll_of_forall_ne applied
      intro update listed
      rintro ⟨sameName, sameKind⟩
      rcases List.mem_append.1 listed with gauge | poll
      · obtain ⟨entry, _, rfl⟩ := List.mem_map.1 gauge
        cases sameKind
      · rw [List.mem_singleton.1 poll] at sameName
        exact another sameName.symm
    exact Option.map_injective (fun first second => Value.counter.inj) same

end Readings

end Telemetry
