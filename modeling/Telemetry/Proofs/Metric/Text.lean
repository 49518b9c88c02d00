import Telemetry.Metric.Validation
import Telemetry.Metric.Wire
import Telemetry.Proofs.Number.Text

/-!
# Records from texts

A record is made from texts if there is a name and a value is written, and it is the record of both. The text of a
value, as it is shown to people, is such a text. The JSON text of a record is not much longer than its name.
-/

namespace Telemetry

namespace Value

/-- A type and a text write a value: the type is the name of its kind, and the text is read as its number. An
infinity is no value. -/
inductive IsWritten (type raw : String) : Value → Prop
  | gauge {reading : Binary64} (typed : type = Kind.gauge.name) (read : Binary64.ofText? raw = some reading)
    (finite : reading.isFinite = true) : IsWritten type raw (.gauge reading)
  | counter {delta : Count} (typed : type = Kind.counter.name) (read : Count.ofText? raw = some delta) :
    IsWritten type raw (.counter delta)

end Value

namespace Record

variable {type name raw : String} {record : Record} {value : Value}

/-- A record is made from texts exactly if there is a name and a value is written, and it is the record of both. -/
theorem ofText_eq_ok_iff :
    ofText type name raw = .ok record ↔
      name ≠ "" ∧ ∃ value, Value.IsWritten type raw value ∧ record = ofValue name value := by
  unfold ofText
  constructor
  · intro made
    split at made
    · cases made
    case isFalse named =>
      refine ⟨named, ?_⟩
      split at made
      · cases made
      case h_2 isGauge =>
        have typed := (Kind.name_of_ofName?_eq_some isGauge).symm
        split at made
        case h_1 reading found =>
          cases made
          obtain ⟨read, finite⟩ := Option.filter_eq_some_iff.1 found
          exact ⟨.gauge reading, .gauge typed read finite, rfl⟩
        · cases made
      case h_3 isCounter =>
        have typed := (Kind.name_of_ofName?_eq_some isCounter).symm
        split at made
        case h_1 delta read =>
          cases made
          exact ⟨.counter delta, .counter typed read, rfl⟩
        · cases made
  · rintro ⟨named, value, written, rfl⟩
    rw [if_neg named]
    cases written with
    | gauge typed read finite =>
      rw [typed, Kind.ofName?_name, read, Option.filter_some, if_pos finite]
      rfl
    | counter typed read =>
      rw [typed, Kind.ofName?_name, read]
      rfl

/-- The text of a value is read as the value. -/
theorem ofText_text (named : name ≠ "") (finite : ∀ reading, value = .gauge reading → reading.isFinite = true) :
    ofText value.kind.name name value.text = .ok (ofValue name value) := by
  refine ofText_eq_ok_iff.2 ⟨named, value, ?_, rfl⟩
  cases value with
  | gauge reading => exact .gauge rfl (Binary64.ofText?_text (finite reading rfl)) (finite reading rfl)
  | counter count => exact .counter rfl (Count.ofText?_text count)

/-! ## Lengths -/

theorem length_escape_le (text : String) : (Json.escape text).length ≤ 6 * (Text.utf8 text).length := by
  have each : ∀ byte : UInt8, (Json.escapeByte byte).length ≤ 6 := by
    intro byte
    unfold Json.escapeByte
    repeat' split
    all_goals simp
  unfold Json.escape
  induction Text.utf8 text with
  | nil => exact Nat.le_refl _
  | cons byte rest inductionHypothesis =>
    have here := each byte
    rw [List.flatMap_cons, List.length_append, List.length_cons]
    omega

/-- An object with a name, a type and one more member that is written as one piece. -/
theorem length_bytes_ofMembers (name type key : String) {last : Json} {piece : Bytes}
    (written : ∀ depth done, Json.writeOnto .compact depth done last = piece :: done) :
    ((Json.ofMembers [("id", Json.ofText name), ("type", Json.ofText type), (key, last)]).bytes .compact).length =
      (Json.escape name).length + (Json.escape type).length + (Json.escape key).length + piece.length + 23 := by
  have marks : (Text.utf8 ":").length = 1 ∧ (Text.utf8 ",").length = 1 := by decide
  have keys : (Json.escape "id").length = 2 ∧ (Json.escape "type").length = 4 := by decide
  simp only [Json.bytes, Json.ofMembers, Json.ofText, Json.writeOnto, Json.writeMembers, written, List.map_cons,
    List.map_nil, Json.Token.bytes]
  simp only [Json.Spacing.compact, List.length_flatten, List.map_reverse, List.sum_reverse, List.map_cons,
    List.map_nil, List.sum_cons, List.sum_nil, List.length_append, List.length_cons, List.length_nil, marks, keys]
  omega

/-- The JSON text of the record of a value is not much longer than its name. -/
theorem length_bytes_ofValue_le (name : String) (value : Value) :
    (ofValue name value).bytes.length ≤ 6 * (Text.utf8 name).length + 30000 := by
  have escaped := length_escape_le name
  have short : (Json.escape Kind.gauge.name).length = 5 ∧ (Json.escape Kind.counter.name).length = 7 ∧
      (Json.escape "delta").length = 5 ∧ (Json.escape "value").length = 5 := by decide
  obtain ⟨gaugeLength, counterLength, deltaLength, valueLength⟩ := short
  cases value with
  | gauge reading =>
    have exists_piece : ∃ piece : Bytes, piece.length ≤ 20000 ∧
        ∀ depth done, Json.writeOnto .compact depth done (Json.ofBinary64 reading) = piece :: done := by
      unfold Json.ofBinary64
      split
      case isTrue finite =>
        refine ⟨_, ?_, fun _ _ => by rw [Json.writeOnto]⟩
        rw [Json.Token.bytes, List.length_map]
        exact Binary64.length_finiteText_le Layout.json finite
      case isFalse => exact ⟨Json.Token.null.bytes, by decide, fun _ _ => by rw [Json.writeOnto]⟩
    obtain ⟨piece, isShort, written⟩ := exists_piece
    have total := length_bytes_ofMembers name Kind.gauge.name "value" written
    change ((Json.ofMembers _).bytes .compact).length ≤ _
    refine total.trans_le ?_
    omega
  | counter count =>
    have digits := Decimal.length_signedDigits_le count
    have written (depth : Nat) (done : List Bytes) : Json.writeOnto .compact depth done (Json.ofInt count.toInt) =
        (Json.Token.number (Decimal.signedDigits count.toInt)).bytes :: done := by
      rw [Json.ofInt, Json.writeOnto]
    have total := length_bytes_ofMembers name Kind.counter.name "delta" written
    rw [Json.Token.bytes, List.length_map] at total
    refine total.trans_le ?_
    omega

end Record

end Telemetry
