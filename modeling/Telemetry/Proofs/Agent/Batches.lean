import Telemetry.Proofs.Agent.History

/-!
# Batches along a history

Samples are taken in and batches are made in any order. A batch takes nothing out of the readings, so each one
reports the whole history of samples up to it: the last finite reading of every name, and how many polls there
were. All of its records are valid, whatever was in the samples, since one invalid record would refuse the batch
as a whole.
-/

namespace Telemetry

namespace Readings

/-- What happens to readings: a sample is taken in, or a batch is made. -/
inductive Event
  | sample (sample : Sample) (countsPoll : Bool)
  | assembly
  deriving DecidableEq, Repr

/-- The sample of an event, if it has one, with whether it counts as a poll. -/
def Event.sample? : Event → Option (Sample × Bool)
  | .sample taken countsPoll => some (taken, countsPoll)
  | .assembly => none

/-- The samples of events, in order. -/
def samplesOf (events : List Event) : List (Sample × Bool) :=
  events.filterMap Event.sample?

/-- The readings after events. -/
def after (readings : Readings) : List Event → Readings
  | [] => readings
  | .sample sample countsPoll :: events => (readings.record sample countsPoll).after events
  | .assembly :: events => readings.after events

/-- The batches that are made while readings go through events, in order. -/
def assembled (readings : Readings) : List Event → List Batch
  | [] => []
  | .sample sample countsPoll :: events => (readings.record sample countsPoll).assembled events
  | .assembly :: events => readings.batch :: readings.assembled events

/-- For each batch that is made, the history up to it. -/
def historiesBefore (history : List (Sample × Bool)) : List Event → List (List (Sample × Bool))
  | [] => []
  | .sample sample countsPoll :: events => historiesBefore (history ++ [(sample, countsPoll)]) events
  | .assembly :: events => history :: historiesBefore history events

end Readings

/-- A batch holds one gauge for each name that has a finite reading in a history, with the last of these, in
ascending order of the names, and then the number of polls. It plans an update for each of its records and passes
over none. -/
structure Batch.Reports (batch : Batch) (history : List (Sample × Bool)) : Prop where
  exists_gauges : ∃ (gauges : List (String × Binary64)) (total : Count),
    batch = gauges.map (fun reading => Record.gauge reading.1 reading.2) ++
      [Record.counter Readings.pollCounter total] ∧
    gauges.Pairwise (fun first second => first.1 < second.1) ∧
    (∀ name value, (name, value) ∈ gauges ↔ Readings.last? name history = some value) ∧
    total.toInt = Readings.pollsIn history
  exists_plan : ∃ updates, Batch.plan batch = .ok updates ∧
    updates.map (fun update => Record.ofValue update.1 update.2) = batch
  planLog_eq_nil : Batch.planLog batch = []

namespace Readings

variable {readings : Readings} {history : List (Sample × Bool)} {events : List Event}

/-! ## One batch -/

theorem hasKnownType_of_mem_batch {record : Record} (listed : record ∈ readings.batch) :
    record.hasKnownType = true := by
  rcases List.mem_append.1 listed with gauge | poll
  · obtain ⟨_, _, rfl⟩ := gauge_of_mem_gaugeRecords gauge
    rfl
  · rw [List.mem_singleton.1 poll]
    rfl

theorem map_ofValue_updates (readings : Readings) :
    readings.updates.map (fun update => Record.ofValue update.1 update.2) = readings.batch := by
  rw [updates, List.map_append, gaugeUpdates, List.map_map]
  rfl

/-- The batch that is made after a history reports it. -/
theorem reports_batch (named : ∀ entry ∈ history, ∀ reading ∈ entry.1, reading.1 ≠ "")
    (inRange : pollsIn history < 2 ^ 63) : (ofHistory history).batch.Reports history where
  exists_gauges := by
    refine ⟨(ofHistory history).gauges.entries, Count.nearest (ofHistory history).polls, rfl,
      (ofHistory history).gauges.ascending, fun name value => ?_, ?_⟩
    · rw [Roster.mem_entries_iff, get?_ofHistory]
    · rw [polls_ofHistory, Count.toInt_nearest inRange]
  exists_plan := ⟨_, plan_batch (allValid_ofHistory named), map_ofValue_updates _⟩
  planLog_eq_nil := by
    refine List.map_eq_nil_iff.2 (List.filter_eq_nil_iff.2 fun record listed => ?_)
    rw [hasKnownType_of_mem_batch ((List.takeWhile_subset _) listed)]
    decide

/-! ## All batches -/

/-- Batches take nothing out of the readings. -/
theorem after_ofHistory (history : List (Sample × Bool)) (events : List Event) :
    (ofHistory history).after events = ofHistory (history ++ samplesOf events) := by
  induction events generalizing history with
  | nil => rw [samplesOf, List.filterMap_nil, List.append_nil, after]
  | cons event events inductionHypothesis =>
    cases event with
    | sample sample countsPoll =>
      have recorded := ofHistory_append_singleton history (sample, countsPoll)
      rw [after, ← recorded, inductionHypothesis, List.append_assoc]
      rfl
    | assembly => exact inductionHypothesis history

/-- Each batch is made of the history up to it. -/
theorem assembled_ofHistory (history : List (Sample × Bool)) (events : List Event) :
    (ofHistory history).assembled events =
      (historiesBefore history events).map fun earlier => (ofHistory earlier).batch := by
  induction events generalizing history with
  | nil => rfl
  | cons event events inductionHypothesis =>
    cases event with
    | sample sample countsPoll =>
      have recorded := ofHistory_append_singleton history (sample, countsPoll)
      rw [assembled, historiesBefore, ← inductionHypothesis, recorded]
    | assembly => rw [assembled, historiesBefore, List.map_cons, inductionHypothesis]

theorem prefix_of_mem_historiesBefore {earlier : List (Sample × Bool)}
    (listed : earlier ∈ historiesBefore history events) :
    history <+: earlier ∧ earlier <+: history ++ samplesOf events := by
  induction events generalizing history with
  | nil => cases listed
  | cons event events inductionHypothesis =>
    cases event with
    | sample sample countsPoll =>
      obtain ⟨longer, shorter⟩ := inductionHypothesis listed
      rw [List.append_assoc] at shorter
      exact ⟨(List.prefix_append _ _).trans longer, shorter⟩
    | assembly =>
      rcases List.mem_cons.1 listed with rfl | later
      · exact ⟨List.prefix_rfl, List.prefix_append _ _⟩
      · exact inductionHypothesis later

/-- Histories grow from batch to batch. -/
theorem pairwise_historiesBefore (history : List (Sample × Bool)) (events : List Event) :
    (historiesBefore history events).Pairwise (· <+: ·) := by
  induction events generalizing history with
  | nil => exact .nil
  | cons event events inductionHypothesis =>
    cases event with
    | sample sample countsPoll => exact inductionHypothesis _
    | assembly =>
      exact .cons (fun _ listed => (prefix_of_mem_historiesBefore listed).1) (inductionHypothesis _)

theorem total_of_mem_batch {total : Count} (listed : Record.counter pollCounter total ∈ readings.batch) :
    total = Count.nearest readings.polls := by
  rcases List.mem_append.1 listed with gauge | poll
  · obtain ⟨_, _, same⟩ := gauge_of_mem_gaugeRecords gauge
    cases same
  · cases List.mem_singleton.1 poll
    rfl

/-- The number of polls never goes down from one batch to a later one. -/
theorem total_le_of_prefix {earlier later : List (Sample × Bool)} (isPrefix : earlier <+: later)
    {first second : Count} (isFirst : Record.counter pollCounter first ∈ (ofHistory earlier).batch)
    (isSecond : Record.counter pollCounter second ∈ (ofHistory later).batch) : first.toInt ≤ second.toInt := by
  have fewer : pollsIn earlier ≤ pollsIn later := isPrefix.sublist.countP_le
  rw [total_of_mem_batch isFirst, total_of_mem_batch isSecond, Count.toInt_nearest_eq_min,
    Count.toInt_nearest_eq_min, polls_ofHistory, polls_ofHistory]
  omega

/-! ## The last batch -/

theorem finalBatch?_of_polls (polls : 0 < readings.polls) : readings.finalBatch? = some readings.batch := by
  have notEmpty : ¬readings.isEmpty = true := fun empty => Nat.ne_of_gt polls (isEmpty_iff.1 empty).2
  rw [finalBatch?, if_neg notEmpty, if_neg (Nat.ne_of_gt polls)]

theorem finalBatch?_of_no_polls (noPolls : readings.polls = 0) (notEmpty : ¬readings.isEmpty = true) :
    readings.finalBatch? = some readings.gaugeRecords := by
  rw [finalBatch?, if_neg notEmpty, if_pos noPolls]

/-- Of readings under names, with polls that a count can hold, each batch that is made reports the history up to
it, and counts no fewer polls than the one before. A last batch that would be made at any moment is the one that
would be made at intervals, without its count if nothing was polled; there is none exactly if there is nothing to
tell, and it is never empty. -/
theorem batches_report_histories (events : List Event)
    (named : ∀ entry ∈ samplesOf events, ∀ reading ∈ entry.1, reading.1 ≠ "")
    (inRange : pollsIn (samplesOf events) < 2 ^ 63) :
    List.Forall₂ Batch.Reports (empty.assembled events) (historiesBefore [] events) ∧
    (empty.assembled events).Pairwise (fun earlier later => ∀ first second,
      Record.counter pollCounter first ∈ earlier → Record.counter pollCounter second ∈ later →
        first.toInt ≤ second.toInt) ∧
    ∀ earlier : List Event,
      let history := samplesOf earlier
      let readings := empty.after earlier
      (readings.finalBatch? = none ↔ ¬HasNews history) ∧
      (0 < pollsIn history → readings.finalBatch? = some readings.batch) ∧
      (pollsIn history = 0 → HasNews history →
        ∃ gauges, readings.finalBatch? = some gauges ∧ readings.batch = gauges ++ [readings.pollRecord]) ∧
      ∀ batch, readings.finalBatch? = some batch → batch ≠ [] := by
  have madeOf : empty.assembled events =
      (historiesBefore [] events).map fun earlier => (ofHistory earlier).batch :=
    assembled_ofHistory [] events
  rw [madeOf]
  refine ⟨?_, ?_, ?_⟩
  · rw [List.forall₂_map_left_iff]
    apply List.forall₂_same.2
    intro history listed
    have isPrefix : history <+: samplesOf events := (prefix_of_mem_historiesBefore listed).2
    apply reports_batch fun entry taken => named entry (isPrefix.subset taken)
    exact Nat.lt_of_le_of_lt isPrefix.sublist.countP_le inRange
  · exact List.pairwise_map.2 ((pairwise_historiesBefore [] events).imp
      fun isPrefix _ _ => total_le_of_prefix isPrefix)
  · intro earlier history readings
    have told : readings = ofHistory history := after_ofHistory [] earlier
    rw [told, ← polls_ofHistory history]
    refine ⟨finalBatch?_eq_none_iff.trans isEmpty_ofHistory_iff, finalBatch?_of_polls, ?_,
      fun batch => ne_nil_of_finalBatch?⟩
    intro noPolls hasNews
    have notEmpty : ¬(ofHistory history).isEmpty = true :=
      fun nothing => isEmpty_ofHistory_iff.1 nothing hasNews
    exact ⟨_, finalBatch?_of_no_polls noPolls notEmpty, rfl⟩

/-- A name that comes twice in a sample, readings that are not finite, and batches before, between and after. -/
theorem batches_report_histories_of_two_samples :
    let one : Binary64 := ⟨0x3ff0000000000000⟩
    let two : Binary64 := ⟨0x4000000000000000⟩
    let polledOnce : Count := ⟨1, by decide, by decide⟩
    let events : List Event :=
      [.assembly, .sample [("load", one), ("heat", .nan), ("load", two)] true, .assembly,
        .sample [("load", .infinity true), ("heat", one)] false, .assembly]
    (∀ entry ∈ samplesOf events, ∀ reading ∈ entry.1, reading.1 ≠ "") ∧ pollsIn (samplesOf events) < 2 ^ 63 ∧
      empty.assembled events = [[.counter pollCounter Count.zero],
        [.gauge "load" two, .counter pollCounter polledOnce],
        [.gauge "heat" one, .gauge "load" two, .counter pollCounter polledOnce]] ∧
      List.Forall₂ Batch.Reports (empty.assembled events) (historiesBefore [] events) ∧
      (empty.after events).finalBatch? = some (empty.after events).batch := by
  intro one two polledOnce events
  have named : ∀ entry ∈ samplesOf events, ∀ reading ∈ entry.1, reading.1 ≠ "" := by decide
  have inRange : pollsIn (samplesOf events) < 2 ^ 63 := by decide
  obtain ⟨reported, _, last⟩ := batches_report_histories events named inRange
  exact ⟨named, inRange, by decide, reported, (last events).2.1 (by decide)⟩

end Readings

end Telemetry
