import Telemetry.Json.Fields
import Telemetry.Json.Printer
import Telemetry.Metric.Basic

/-!
# Records as JSON

A record is written as an object with the members `id`, `type`, `delta` and `value` in this order, where
a missing number leaves no member. It is read from such an object, with members in any order and others
ignored, or from an array of the four in the same order.
-/

namespace Telemetry

namespace Record

/-- The JSON value of a record. -/
def toJson (record : Record) : Json :=
  Json.ofMembers <|
    [("id", Json.ofText record.id), ("type", Json.ofText record.type.name)] ++
      (record.delta.map fun delta => ("delta", Json.ofInt delta.toInt)).toList ++
      (record.value.map fun value => ("value", Json.ofBinary64 value)).toList

/-- The record that a JSON value stands for. -/
def ofJson? (json : Json) : Option Record :=
  match Json.fields? ["id", "type", "delta", "value"] json with
  | some [some id, some type, delta, value] => do
    let id ← Json.text? id
    let type ← Json.text? type
    let delta ← Json.optional? Json.count? delta
    let value ← Json.optional? Json.binary64? value
    return ⟨id, RecordType.ofName type, delta, value⟩
  | _ => none

/-- The JSON text of a record. -/
def bytes (record : Record) : Bytes :=
  record.toJson.bytes .compact

/-- The record that a JSON text stands for. -/
def ofBytes? (bytes : Bytes) : Option Record :=
  (Json.ofBytes? bytes).bind ofJson?

/-- The JSON text of a list of records. -/
def batchBytes (records : List Record) : Bytes :=
  (Json.array (records.map toJson)).bytes .compact

/-- The JSON text of a list of records, as a text. -/
def batchText (records : List Record) : String :=
  (Text.text? (batchBytes records)).getD ""

/-- The list of records that a JSON text stands for. -/
def batchOfBytes? (bytes : Bytes) : Option (List Record) :=
  (Json.ofBytes? bytes).bind (Json.list? ofJson?)

end Record

end Telemetry
