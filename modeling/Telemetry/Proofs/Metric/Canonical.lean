import Telemetry.Proofs.Metric.Wire

/-!
# Canonical texts of records

A record can be read from many texts: from an object or an array, with its members in any order and others
between them, with numbers and names written in many ways. Whatever text it was read from, the one that is
written of it is read as the same record, whether its type is known or not. So of all texts for a record that one
is canonical: to read it and write the record again gives the same bytes.

What can be read are the finite records, and no others. A record in memory whose value is not finite is written
without it, and that is all that can be lost.
-/

namespace Telemetry

namespace Record

variable {record : Record} {records : List Record} {text : Bytes}

/-! ## The records that can be read -/

theorem isFinite_of_ofJson? {json : Json} (read : ofJson? json = some record) : record.IsFinite := by
  unfold ofJson? at read
  split at read
  · simp only [Option.bind_eq_bind, Option.bind_eq_some_iff, Option.pure_def, Option.some.injEq] at read
    obtain ⟨_, _, _, _, _, _, value, readValue, rfl⟩ := read
    intro number isValue
    obtain ⟨source, found⟩ := Json.exists_of_optional?_eq_some (readValue.trans (congrArg some isValue))
    exact Json.isFinite_of_binary64? found
  · cases read

theorem isFinite_of_ofBytes? (read : ofBytes? text = some record) : record.IsFinite := by
  obtain ⟨json, _, ofJson⟩ := Option.bind_eq_some_iff.1 read
  exact isFinite_of_ofJson? ofJson

theorem isFinite_of_batchOfBytes? (read : batchOfBytes? text = some records) :
    ∀ record ∈ records, record.IsFinite := by
  obtain ⟨json, _, items⟩ := Option.bind_eq_some_iff.1 read
  intro record listed
  cases json with
  | array values =>
    obtain ⟨value, _, ofJson⟩ := exists_of_mem_of_mapM items listed
    exact isFinite_of_ofJson? ofJson
  | _ => cases items

/-- The records that can be read are the finite ones. -/
theorem exists_ofBytes?_iff : (∃ text, ofBytes? text = some record) ↔ record.IsFinite :=
  ⟨fun ⟨_, read⟩ => isFinite_of_ofBytes? read, fun finite => ⟨record.bytes, ofBytes?_bytes finite⟩⟩

/-! ## What is written -/

/-- A value that is not finite is left out, and nothing else is. -/
theorem asWritten_of_not_isFinite (notFinite : ¬record.IsFinite) :
    record.asWritten = { record with value := none } := by
  obtain ⟨id, type, delta, value⟩ := record
  cases value with
  | none => exact absurd nofun notFinite
  | some value =>
    have leftOut : ¬value.isFinite = true := fun finite => notFinite fun _ same => by
      cases same
      exact finite
    rw [asWritten, Option.filter_some, if_neg leftOut]

theorem asWritten_eq_self_iff : record.asWritten = record ↔ record.IsFinite := by
  constructor
  · intro same value isValue
    rw [← same] at isValue
    exact (Option.filter_eq_some_iff.1 isValue).2
  · exact asWritten_of_isFinite

/-- Of a record that was read, and of a list of records, the text that is written is read as the same, and
written again it gives the same bytes. Of any record at all, the text that is written is read as that record, but
for a value that is not finite: then there is no value. -/
theorem written_text_is_canonical :
    (∀ text record, ofBytes? text = some record →
      ofBytes? record.bytes = some record ∧ (ofBytes? record.bytes).map bytes = some record.bytes) ∧
    (∀ text records, batchOfBytes? text = some records →
      batchOfBytes? (batchBytes records) = some records ∧
        (batchOfBytes? (batchBytes records)).map batchBytes = some (batchBytes records)) ∧
    ∀ record : Record, ∃ read, ofBytes? record.bytes = some read ∧ (read = record ↔ record.IsFinite) ∧
      (¬record.IsFinite → read = { record with value := none }) := by
  refine ⟨?_, ?_, ?_⟩
  · intro text record read
    have readAgain := ofBytes?_bytes (isFinite_of_ofBytes? read)
    exact ⟨readAgain, by rw [readAgain, Option.map_some]⟩
  · intro text records read
    have readAgain := batchOfBytes?_batchBytes_of_isFinite (isFinite_of_batchOfBytes? read)
    exact ⟨readAgain, by rw [readAgain, Option.map_some]⟩
  · intro record
    exact ⟨record.asWritten, ofBytes?_bytes_eq_asWritten record, asWritten_eq_self_iff,
      asWritten_of_not_isFinite⟩

/-- A record of a type that nobody knows, with its members out of order, another one among them and an escape in
its name, and a list of records, one of them an array. -/
theorem written_text_is_canonical_unknown_type :
    let text := Text.utf8 "\x7b\"rest\":[1e999],\"value\":15e-1,\"type\":\"timer\",\"id\":\"\\u0061\"\x7d"
    let record : Record := ⟨"a", .ofName "timer", none, some ⟨0x3ff8000000000000⟩⟩
    let listText := Text.utf8 "[[\"b\",\"gauge\",null,1],\x7b\"delta\":-3,\"id\":\"c\",\"type\":\"counter\"\x7d]"
    let records : List Record := [.gauge "b" ⟨0x3ff0000000000000⟩, .counter "c" ⟨-3, by decide, by decide⟩]
    let endless : Record := ⟨"a", .ofName "timer", some ⟨-3, by decide, by decide⟩, some (.infinity true)⟩
    ofBytes? text = some record ∧ ofBytes? record.bytes = some record ∧
      batchOfBytes? listText = some records ∧ batchOfBytes? (batchBytes records) = some records ∧
      ¬endless.IsFinite ∧ ofBytes? endless.bytes = some { endless with value := none } := by
  intro text record listText records endless
  have read : ofBytes? text = some record := by decide +kernel
  have listRead : batchOfBytes? listText = some records := by decide +kernel
  have notFinite : ¬endless.IsFinite := by decide
  obtain ⟨last, lastRead, _, withoutValue⟩ := written_text_is_canonical.2.2 endless
  refine ⟨read, (written_text_is_canonical.1 text record read).1, listRead,
    (written_text_is_canonical.2.1 listText records listRead).1, notFinite, ?_⟩
  rw [lastRead, withoutValue notFinite]

end Record

end Telemetry
