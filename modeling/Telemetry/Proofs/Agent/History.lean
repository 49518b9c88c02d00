import Telemetry.Proofs.Agent.Readings
import Telemetry.Proofs.Store.MemoryCalls

/-!
# What readings tell of a history

An agent does not keep its samples. It keeps the last finite reading of each name and counts the polls, and
the last batch tells nothing else. So a history is told by the batch that is made of it in the end, however
many samples there were, and there is no such batch if the history holds nothing to tell.
-/

namespace Telemetry

/-- Numbers that no count can hold are told as the greatest one. -/
theorem Count.toInt_nearest_eq_min (value : Nat) :
    (nearest value).toInt = min (value : Int) greatest.toInt := by
  have bound : greatest.toInt = 0x7fffffffffffffff := rfl
  by_cases inRange : value < 0x8000000000000000
  · rw [toInt_nearest inRange]
    omega
  · have outside : ofInt? (value : Int) = none := ofInt?_eq_none_iff.2 (.inr (by omega))
    rw [nearest, outside, Option.getD_none]
    omega

namespace Readings

/-- A reading of the name, if it is finite. -/
def finite? (name : String) (reading : String × Binary64) : Option Binary64 :=
  if reading.1 = name ∧ reading.2.isFinite = true then some reading.2 else none

/-- The last finite reading of the name in a history. -/
def last? (name : String) (history : List (Sample × Bool)) : Option Binary64 :=
  ((history.flatMap Prod.fst).filterMap (finite? name)).getLast?

/-- How many samples of a history count as polls. -/
def pollsIn (history : List (Sample × Bool)) : Nat :=
  history.countP Prod.snd

/-- A history holds a finite reading or a sample that counts as a poll. -/
def HasNews (history : List (Sample × Bool)) : Prop :=
  ∃ entry ∈ history, entry.2 = true ∨ ∃ reading ∈ entry.1, reading.2.isFinite = true

end Readings

/-- A batch tells of each name the last finite reading of a history, and how many polls it counts if it counts
any. It tells nothing else, and nothing twice. -/
structure Batch.Tells (batch : Batch) (history : List (Sample × Bool)) : Prop where
  gauge_mem_iff : ∀ name value,
    Record.gauge name value ∈ batch ↔ Readings.last? name history = some value
  counter_mem_iff : ∀ name delta, Record.counter name delta ∈ batch ↔
    name = Readings.pollCounter ∧ 0 < Readings.pollsIn history ∧
      delta.toInt = Readings.pollsIn history
  gaugeOrCounter : ∀ record ∈ batch,
    (∃ name value, record = .gauge name value) ∨ ∃ name delta, record = .counter name delta
  nodup : batch.Nodup

namespace Readings

variable {readings : Readings} {history : List (Sample × Bool)} {batch : Batch} {name : String}

/-! ## The last readings -/

theorem last?_append_singleton (name : String) (history : List (Sample × Bool)) (entry : Sample × Bool) :
    last? name (history ++ [entry]) =
      (entry.1.filterMap (finite? name)).getLast?.or (last? name history) := by
  rw [last?, last?, List.flatMap_append, List.filterMap_append, List.getLast?_append, List.flatMap_singleton]

theorem finite?_eq_none_iff {reading : String × Binary64} :
    finite? name reading = none ↔ reading.1 = name → reading.2.isFinite = false := by
  simp [finite?]

theorem ofHistory_append_singleton (history : List (Sample × Bool)) (entry : Sample × Bool) :
    ofHistory (history ++ [entry]) = (ofHistory history).record entry.1 entry.2 := by
  rw [ofHistory, List.foldl_append]
  rfl

theorem gauges_record_cons (readings : Readings) (reading : String × Binary64) (sample : Sample)
    (countsPoll : Bool) :
    (readings.record (reading :: sample) countsPoll).gauges =
      if reading.2.isFinite = true then
        (record { readings with gauges := readings.gauges.insert reading.1 reading.2 } sample countsPoll).gauges
      else
        (readings.record sample countsPoll).gauges := by
  rw [record, List.filter_cons]
  split <;> rfl

/-- A sample puts its last finite readings in place of the earlier ones. -/
theorem get?_record (readings : Readings) (sample : Sample) (countsPoll : Bool) (name : String) :
    (readings.record sample countsPoll).gauges.get? name =
      (sample.filterMap (finite? name)).getLast?.or (readings.gauges.get? name) := by
  induction sample generalizing readings with
  | nil => rfl
  | cons reading sample inductionHypothesis =>
    rw [gauges_record_cons]
    by_cases finite : reading.2.isFinite = true
    · rw [if_pos finite, inductionHypothesis, Roster.get?_insert]
      by_cases same : reading.1 = name
      · have found : finite? name reading = some reading.2 := if_pos ⟨same, finite⟩
        rw [if_pos same, List.filterMap_cons_some found, List.getLast?_cons]
        cases (sample.filterMap (finite? name)).getLast? <;> rfl
      · have passed : finite? name reading = none := if_neg fun both => same both.1
        rw [if_neg same, List.filterMap_cons_none passed]
    · have passed : finite? name reading = none := if_neg fun both => finite both.2
      rw [if_neg finite, inductionHypothesis, List.filterMap_cons_none passed]

/-- What is kept of a history under a name is the last finite reading. -/
theorem get?_ofHistory (history : List (Sample × Bool)) (name : String) :
    (ofHistory history).gauges.get? name = last? name history := by
  induction history using List.reverseRecOn with
  | nil => rfl
  | append_singleton history entry inductionHypothesis =>
    rw [ofHistory_append_singleton, get?_record, inductionHypothesis, last?_append_singleton]

theorem polls_ofHistory (history : List (Sample × Bool)) : (ofHistory history).polls = pollsIn history := by
  induction history using List.reverseRecOn with
  | nil => rfl
  | append_singleton history entry inductionHypothesis =>
    rw [ofHistory_append_singleton, record, inductionHypothesis, pollsIn, pollsIn, List.countP_append,
      List.countP_singleton]
    cases entry.2 <;> rfl

/-! ## Whether there is anything to tell -/

theorem isEmpty_iff :
    readings.isEmpty = true ↔ (∀ name, readings.gauges.get? name = none) ∧ readings.polls = 0 := by
  rw [isEmpty, Bool.and_eq_true, List.isEmpty_iff, beq_iff_eq]
  apply and_congr_left'
  constructor
  · intro empty name
    rw [Roster.get?, empty, Roster.lookup]
  · intro absent
    apply List.eq_nil_iff_forall_not_mem.2
    intro entry listed
    cases (absent entry.1).symm.trans (Roster.mem_entries_iff.1 listed)

theorem last?_eq_none_iff :
    last? name history = none ↔
      ∀ entry ∈ history, ∀ reading ∈ entry.1, reading.1 = name → reading.2.isFinite = false := by
  simp only [last?, List.getLast?_eq_none_iff, List.filterMap_eq_nil_iff, List.mem_flatMap,
    finite?_eq_none_iff, forall_exists_index, and_imp]
  exact ⟨fun none entry listed reading isReading => none reading entry listed isReading,
    fun none reading entry listed isReading => none entry listed reading isReading⟩

theorem isEmpty_ofHistory_iff : (ofHistory history).isEmpty = true ↔ ¬HasNews history := by
  rw [isEmpty_iff, polls_ofHistory, pollsIn, List.countP_eq_zero]
  simp only [get?_ofHistory, last?_eq_none_iff, HasNews]
  constructor
  · rintro ⟨noReading, noPoll⟩ ⟨entry, listed, counts | ⟨reading, isReading, finite⟩⟩
    · exact noPoll entry listed counts
    · cases (noReading reading.1 entry listed reading isReading rfl).symm.trans finite
  · intro noNews
    constructor
    · intro name entry listed reading isReading _
      rw [← Bool.not_eq_true]
      exact fun finite => noNews ⟨entry, listed, .inr ⟨reading, isReading, finite⟩⟩
    · exact fun entry listed counts => noNews ⟨entry, listed, .inl counts⟩

/-! ## The last batch -/

theorem finalBatch?_eq_none_iff : readings.finalBatch? = none ↔ readings.isEmpty = true := by
  unfold finalBatch?
  split
  · next empty => simp [empty]
  · next something => split <;> simp [something]

/-- The record of the polls, unless there are none. -/
def pollRecords (readings : Readings) : Batch :=
  if readings.polls = 0 then [] else [readings.pollRecord]

theorem mem_pollRecords_iff {record : Record} :
    record ∈ readings.pollRecords ↔ readings.polls ≠ 0 ∧ record = readings.pollRecord := by
  unfold pollRecords
  split
  · next noPolls => simp [noPolls]
  · next polls => simp [polls]

theorem nodup_pollRecords (readings : Readings) : readings.pollRecords.Nodup := by
  unfold pollRecords
  split
  · exact List.nodup_nil
  · exact List.nodup_singleton _

theorem eq_of_finalBatch? (final : readings.finalBatch? = some batch) :
    batch = readings.gaugeRecords ++ readings.pollRecords := by
  unfold finalBatch? at final
  split at final
  · cases final
  · rw [pollRecords]
    split at final
    · next noPolls =>
      rw [if_pos noPolls, List.append_nil]
      exact (Option.some.inj final).symm
    · next polls =>
      rw [if_neg polls]
      exact (Option.some.inj final).symm

theorem gauge_mem_gaugeRecords_iff {value : Binary64} :
    Record.gauge name value ∈ readings.gaugeRecords ↔ readings.gauges.get? name = some value := by
  rw [← Roster.mem_entries_iff, gaugeRecords, List.mem_map]
  constructor
  · rintro ⟨entry, listed, same⟩
    cases same
    exact listed
  · exact fun listed => ⟨_, listed, rfl⟩

theorem nodup_gaugeRecords (readings : Readings) : readings.gaugeRecords.Nodup := by
  have names : readings.gaugeRecords.map Record.id = readings.gauges.names := List.map_map
  apply List.Nodup.of_map Record.id
  rw [names]
  exact readings.gauges.names_ascending.imp String.ne_of_lt

theorem gauge_of_mem_gaugeRecords {record : Record} (listed : record ∈ readings.gaugeRecords) :
    ∃ name value, record = .gauge name value := by
  obtain ⟨entry, _, rfl⟩ := List.mem_map.1 listed
  exact ⟨_, _, rfl⟩

/-- The last batch tells of the history what is to be told of it. -/
theorem tells_of_finalBatch? (inRange : pollsIn history < 2 ^ 63)
    (final : (ofHistory history).finalBatch? = some batch) : batch.Tells history where
  gauge_mem_iff name value := by
    rw [eq_of_finalBatch? final, List.mem_append, gauge_mem_gaugeRecords_iff, get?_ofHistory]
    apply or_iff_left
    intro listed
    cases (mem_pollRecords_iff.1 listed).2
  counter_mem_iff name delta := by
    have noGauge : Record.counter name delta ∉ (ofHistory history).gaugeRecords := by
      intro listed
      obtain ⟨_, _, same⟩ := gauge_of_mem_gaugeRecords listed
      cases same
    rw [eq_of_finalBatch? final, List.mem_append, or_iff_right noGauge, mem_pollRecords_iff, pollRecord,
      polls_ofHistory, ← Count.toInt_nearest inRange]
    constructor
    · rintro ⟨polls, same⟩
      cases same
      exact ⟨rfl, Nat.pos_of_ne_zero polls, rfl⟩
    · rintro ⟨rfl, polls, sameCount⟩
      exact ⟨Nat.ne_of_gt polls, by rw [Count.ext sameCount]⟩
  gaugeOrCounter record listed := by
    rw [eq_of_finalBatch? final, List.mem_append] at listed
    rcases listed with gauge | poll
    · exact .inl (gauge_of_mem_gaugeRecords gauge)
    · exact .inr ⟨_, _, (mem_pollRecords_iff.1 poll).2⟩
  nodup := by
    rw [eq_of_finalBatch? final]
    apply List.nodup_append.2
    refine ⟨nodup_gaugeRecords _, nodup_pollRecords _, ?_⟩
    rintro record gauge _ poll rfl
    obtain ⟨_, _, rfl⟩ := gauge_of_mem_gaugeRecords gauge
    cases (mem_pollRecords_iff.1 poll).2

theorem ne_nil_of_finalBatch? (final : readings.finalBatch? = some batch) : batch ≠ [] := by
  have notEmpty : ¬readings.isEmpty = true := by
    rw [← finalBatch?_eq_none_iff, final]
    nofun
  rw [eq_of_finalBatch? final]
  intro nothing
  obtain ⟨noGauges, noPolls⟩ := List.append_eq_nil_iff.1 nothing
  apply notEmpty
  apply isEmpty_iff.2
  constructor
  · intro name
    rw [Roster.get?, List.map_eq_nil_iff.1 noGauges, Roster.lookup]
  · by_contra polls
    rw [pollRecords, if_neg polls] at noPolls
    cases noPolls

theorem exists_finalBatch? (hasNews : HasNews history) :
    ∃ batch, (ofHistory history).finalBatch? = some batch := by
  apply Option.ne_none_iff_exists'.1
  intro none
  exact isEmpty_ofHistory_iff.1 (finalBatch?_eq_none_iff.1 none) hasNews

/-- A store that takes the last batch holds its readings in place of its own. -/
theorem get?_of_updateBatch_finalBatch? {store next : Store} (final : readings.finalBatch? = some batch)
    (updated : store.updateBatch batch = .ok next) (name : String) :
    next.gauges.get? name = (readings.gauges.get? name).or (store.gauges.get? name) := by
  have told : Store.lastReading? name (batch.filterMap Record.asked?) = readings.gauges.get? name := by
    rw [eq_of_finalBatch? final, List.filterMap_append, filterMap_asked?_gaugeRecords,
      Store.lastReading?_append, lastReading?_gaugeUpdates readings.gauges.ascending, pollRecords]
    split <;> rfl
  rw [Store.get?_gauges_applyAll name (Store.updateBatch_eq_ok updated).2, told]

end Readings

end Telemetry
