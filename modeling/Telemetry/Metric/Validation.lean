import Telemetry.Metric.Basic

/-!
# Valid records

A record is valid when it has a name and a known type and holds the number of that type and not the
other. `Record.validate` gives the value of a valid record or the first cause, in a fixed order, why it is
none. `Record.ofText` builds a record from texts, as they stand in the path of a request.
-/

namespace Telemetry

/-- The two number fields of a record. -/
inductive NumberField
  | value
  | delta
  deriving DecidableEq, Repr

/-- The name of a number field in a record. -/
def NumberField.name : NumberField → String
  | value => "value"
  | delta => "delta"

/-- Why a record, a batch of records or an update of the store is refused. -/
inductive ValidationError
  | missingId
  | unknownKind (name : String)
  | missingValue
  | missingDelta
  | unexpectedField (field : NumberField) (kind : Kind)
  | emptyBatch
  | invalidValue (kind : Kind) (raw : String)
  | counterOverflow (name : String)
  deriving DecidableEq, Repr

/-- The wording of a refusal. -/
def ValidationError.message : ValidationError → String
  | missingId => "field 'id' is required"
  | unknownKind name => "field 'type' must have a value of 'gauge' or 'counter', got '" ++ name ++ "'"
  | missingValue => "field 'value' is required (with the 'gauge' type)"
  | missingDelta => "field 'delta' is required (with the 'counter' type)"
  | unexpectedField field kind =>
    "field '" ++ field.name ++ "' is not allowed with the '" ++ kind.name ++ "' type"
  | emptyBatch => "empty metrics batch"
  | invalidValue kind raw => "invalid " ++ kind.name ++ " value '" ++ raw ++ "'"
  | counterOverflow name => "counter '" ++ name ++ "' would overflow"

/-- Only a finite value can be stored in a gauge: no other has a JSON form. -/
def Binary64.checkGauge (value : Binary64) : Except ValidationError Unit :=
  if value.isFinite then .ok () else .error (.invalidValue .gauge value.text)

namespace Record

/-- The kind of metric that a record names, which takes a name and a known type. -/
def checkQuery (record : Record) : Except ValidationError Kind :=
  if record.id = "" then
    .error .missingId
  else
    match record.type with
    | .known kind => .ok kind
    | .unknown name _ => .error (.unknownKind name)

/-- The value of a gauge record. -/
def gaugeValue (record : Record) : Except ValidationError Value :=
  match record.delta, record.value with
  | some _, _ => .error (.unexpectedField .delta .gauge)
  | none, some value => value.checkGauge.map fun _ => .gauge value
  | none, none => .error .missingValue

/-- The value of a counter record. -/
def counterValue (record : Record) : Except ValidationError Value :=
  match record.value, record.delta with
  | some _, _ => .error (.unexpectedField .value .counter)
  | none, some delta => .ok (.counter delta)
  | none, none => .error .missingDelta

/-- The value that a record holds, if it is valid. -/
def validate (record : Record) : Except ValidationError Value :=
  match record.checkQuery with
  | .error cause => .error cause
  | .ok .gauge => record.gaugeValue
  | .ok .counter => record.counterValue

/-- A record from the texts of its type, name and number. -/
def ofText (type id raw : String) : Except ValidationError Record :=
  if id = "" then
    .error .missingId
  else
    match Kind.ofName? type with
    | none => .error (.unknownKind type)
    | some .gauge =>
      match (Binary64.ofText? raw).filter Binary64.isFinite with
      | some value => .ok (gauge id value)
      | none => .error (.invalidValue .gauge raw)
    | some .counter =>
      match Count.ofText? raw with
      | some delta => .ok (counter id delta)
      | none => .error (.invalidValue .counter raw)

end Record

end Telemetry
