import Telemetry.Metric.Wire
import Telemetry.Proofs.Json.Number
import Telemetry.Proofs.Json.Printer

/-!
# Reading records back

A record is read back from its JSON text, and so is a list of records, as it was but for a value that is not
finite: that is written as `null`, and so the record that is read has none. Names may hold any characters.
-/

namespace Telemetry

namespace Json

/-- The members of an object are read back with their keys. -/
theorem members?_ofMembers (members : List (String × Json)) : (ofMembers members).members? = some members := by
  apply mapM_map_eq_some
  intro member _
  simp

theorem fields?_ofMembers (names : List String) (members : List (String × Json)) :
    fields? names (ofMembers members) = names.mapM fun name => single? name members := by
  change (ofMembers members).members?.bind _ = _
  rw [members?_ofMembers, Option.bind_some]

/-- A text is read back. -/
@[simp]
theorem text?_ofText (text : String) : text? (ofText text) = some text :=
  textOfContent?_escape text

/-- A field that is there and not `null` is read as what it holds. -/
theorem optional?_some {Datum : Type} {read? : Json → Option Datum} {json : Json} {datum : Datum}
    (notNull : json ≠ .null) (read : read? json = some datum) :
    optional? read? (some json) = some (some datum) := by
  cases json with
  | null => exact absurd rfl notNull
  | _ => simp [optional?, nullable?, read]

theorem wellFormed_ofText (text : String) : (ofText text).WellFormed :=
  .string (isContent_escape text)

theorem wellFormed_ofInt (value : Int) : (ofInt value).WellFormed :=
  .number (isNumber_signedDigits value)

theorem wellFormed_ofBinary64 (value : Binary64) : (ofBinary64 value).WellFormed := by
  unfold ofBinary64
  split
  · exact .number (isNumber_finiteText Layout.json ‹_›)
  · exact .null

/-- An object is well formed if the values of its members are. -/
theorem wellFormed_ofMembers {members : List (String × Json)}
    (values : ∀ member ∈ members, member.2.WellFormed) : (ofMembers members).WellFormed := by
  refine .object ?_ ?_
  · intro member listed
    obtain ⟨source, _, rfl⟩ := List.mem_map.1 listed
    exact isContent_escape source.1
  · intro member listed
    obtain ⟨source, isSource, rfl⟩ := List.mem_map.1 listed
    exact values source isSource

end Json

namespace Record

/-- The value of the record, if it has one, is finite. -/
def IsFinite (record : Record) : Prop :=
  ∀ value ∈ record.value, value.isFinite = true

instance (record : Record) : Decidable record.IsFinite :=
  inferInstanceAs (Decidable (∀ value ∈ record.value, value.isFinite = true))

/-- The fields of a record are found in its JSON value. -/
theorem fields?_toJson (record : Record) :
    Json.fields? ["id", "type", "delta", "value"] record.toJson =
      some [some (Json.ofText record.id), some (Json.ofText record.type.name),
        record.delta.map fun delta => Json.ofInt delta.toInt, record.value.map Json.ofBinary64] := by
  obtain ⟨id, type, delta, value⟩ := record
  rw [toJson, Json.fields?_ofMembers]
  cases delta <;> cases value <;> simp [Json.single?]

/-- The record that is written: without its value, if that is not finite. -/
def asWritten (record : Record) : Record :=
  { record with value := record.value.filter Binary64.isFinite }

theorem asWritten_of_isFinite {record : Record} (finite : record.IsFinite) : record.asWritten = record := by
  obtain ⟨id, type, delta, value⟩ := record
  cases value with
  | none => rfl
  | some value => rw [asWritten, Option.filter_some, if_pos (finite value rfl)]

/-- What is written of a record is read back from its JSON value. -/
theorem ofJson?_toJson (record : Record) : ofJson? record.toJson = some record.asWritten := by
  obtain ⟨id, type, delta, value⟩ := record
  have readDelta : Json.optional? Json.count? (delta.map fun delta => Json.ofInt delta.toInt) =
      some delta := by
    cases delta with
    | none => rfl
    | some delta => exact Json.optional?_some (by simp [Json.ofInt]) (Json.count?_ofInt delta)
  have readValue : Json.optional? Json.binary64? (value.map Json.ofBinary64) =
      some (value.filter Binary64.isFinite) := by
    cases value with
    | none => rfl
    | some value =>
      by_cases isFinite : value.isFinite = true
      · rw [Option.filter_some, if_pos isFinite]
        refine Json.optional?_some ?_ (Json.binary64?_ofBinary64 isFinite)
        rw [Json.ofBinary64, if_pos isFinite]
        simp
      · rw [Option.filter_some, if_neg isFinite, Option.map_some, Json.ofBinary64, if_neg isFinite]
        rfl
  simp [ofJson?, fields?_toJson, readDelta, readValue, asWritten]

theorem wellFormed_toJson (record : Record) : record.toJson.WellFormed := by
  apply Json.wellFormed_ofMembers
  intro member listed
  simp only [List.mem_append, List.mem_cons, List.not_mem_nil, or_false, Option.mem_toList,
    Option.map_eq_some_iff] at listed
  rcases listed with ((rfl | rfl) | ⟨delta, _, rfl⟩) | ⟨value, _, rfl⟩
  · exact Json.wellFormed_ofText record.id
  · exact Json.wellFormed_ofText record.type.name
  · exact Json.wellFormed_ofInt delta.toInt
  · exact Json.wellFormed_ofBinary64 value

/-- What is written of a record is read back from its JSON text. -/
theorem ofBytes?_bytes_eq_asWritten (record : Record) : ofBytes? record.bytes = some record.asWritten := by
  rw [ofBytes?, bytes, (wellFormed_toJson record).ofBytes?_bytes Json.Spacing.compact_isBlank,
    Option.bind_some, ofJson?_toJson]

/-- A record is read back from its JSON text. -/
theorem ofBytes?_bytes {record : Record} (finite : record.IsFinite) : ofBytes? record.bytes = some record := by
  rw [ofBytes?_bytes_eq_asWritten, asWritten_of_isFinite finite]

theorem jsonOfBytes?_batchBytes (records : List Record) :
    Json.ofBytes? (batchBytes records) = some (.array (records.map toJson)) := by
  have wellFormed : (Json.array (records.map toJson)).WellFormed := by
    refine .array fun item listed => ?_
    obtain ⟨record, _, rfl⟩ := List.mem_map.1 listed
    exact wellFormed_toJson record
  exact wellFormed.ofBytes?_bytes Json.Spacing.compact_isBlank

/-- What is written of the records of a list is read back from its JSON text. -/
theorem batchOfBytes?_batchBytes (records : List Record) :
    batchOfBytes? (batchBytes records) = some (records.map asWritten) := by
  rw [batchOfBytes?, jsonOfBytes?_batchBytes, Option.bind_some, Json.list?, mapM_eq_some_iff_forall₂,
    List.forall₂_map_left_iff, List.forall₂_map_right_iff]
  exact List.forall₂_same.2 fun record _ => ofJson?_toJson record

/-- A list of records is read back from its JSON text. -/
theorem batchOfBytes?_batchBytes_of_isFinite {records : List Record}
    (finite : ∀ record ∈ records, record.IsFinite) : batchOfBytes? (batchBytes records) = some records := by
  have asTheyWere : records.map asWritten = records.map fun record => record :=
    List.map_congr_left fun record listed => asWritten_of_isFinite (finite record listed)
  rw [batchOfBytes?_batchBytes, asTheyWere, List.map_id']

/-- The JSON text of a list of records is never that of a record: its items are none of the fields of one. -/
theorem ofBytes?_batchBytes (records : List Record) : ofBytes? (batchBytes records) = none := by
  rw [ofBytes?, jsonOfBytes?_batchBytes, Option.bind_some]
  rcases records with _ | ⟨first, _ | ⟨second, _ | ⟨third, _ | ⟨fourth, _ | ⟨fifth, others⟩⟩⟩⟩⟩
  · rfl
  · rfl
  · rfl
  · rfl
  · rfl
  · rfl

end Record

end Telemetry
