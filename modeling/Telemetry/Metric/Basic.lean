import Telemetry.Number.Count
import Telemetry.Number.Shortest

/-!
# Metrics

A metric is a gauge, of which the latest value counts, or a counter, to which increments are added. What
travels is a record: a name, a type, and two optional numbers of which the type decides which one
belongs. A type that nobody knows is kept as it came, so that a reader of many records can pass over that
one.
-/

namespace Telemetry

/-- The two kinds of metric. -/
inductive Kind
  | gauge
  | counter
  deriving DecidableEq, Repr, Inhabited

namespace Kind

/-- The name of a kind in records, paths and messages. -/
def name : Kind → String
  | gauge => "gauge"
  | counter => "counter"

/-- The kind with the given name. -/
def ofName? (name : String) : Option Kind :=
  if name = "gauge" then some gauge
  else if name = "counter" then some counter
  else none

@[simp]
theorem ofName?_name (kind : Kind) : ofName? kind.name = some kind := by
  cases kind <;> rfl

theorem name_of_ofName?_eq_some {name : String} {kind : Kind} (found : ofName? name = some kind) :
    kind.name = name := by
  unfold ofName? at found
  split at found
  · next isGauge =>
    cases found
    exact isGauge.symm
  · split at found
    · next isCounter =>
      cases found
      exact isCounter.symm
    · contradiction

end Kind

/-- The type of a record: a kind, or a name that is the name of none. -/
inductive RecordType
  | known (kind : Kind)
  | unknown (name : String) (nameOfNone : Kind.ofName? name = none)
  deriving DecidableEq, Repr

namespace RecordType

instance : Inhabited RecordType := ⟨known .gauge⟩

/-- The type that a text names. Every text names one. -/
def ofName (name : String) : RecordType :=
  match found : Kind.ofName? name with
  | some kind => known kind
  | none => unknown name found

/-- The text that names a type. -/
def name : RecordType → String
  | known kind => kind.name
  | unknown name _ => name

/-- The kind that a type names, if it names one. -/
def kind? : RecordType → Option Kind
  | known kind => some kind
  | unknown _ _ => none

@[simp]
theorem name_ofName (name : String) : (ofName name).name = name := by
  unfold ofName
  split
  · next kind found => exact Kind.name_of_ofName?_eq_some found
  · rfl

@[simp]
theorem ofName_name (type : RecordType) : ofName type.name = type := by
  cases type with
  | known kind =>
    unfold ofName
    split
    · next other found =>
      have sameKind : some kind = some other := by
        rw [← Kind.ofName?_name kind]
        exact found
      cases sameKind
      rfl
    · next missing =>
      have impossible : some kind = none := by
        rw [← Kind.ofName?_name kind]
        exact missing
      cases impossible
  | unknown name nameOfNone =>
    unfold ofName
    split
    · next kind found =>
      have impossible : none = some kind := nameOfNone.symm.trans found
      cases impossible
    · rfl

end RecordType

/-- The value of a metric, which tells its kind. -/
inductive Value
  | gauge (value : Binary64)
  | counter (count : Count)
  deriving DecidableEq, Repr

namespace Value

/-- The kind of metric that holds such a value. -/
def kind : Value → Kind
  | gauge _ => .gauge
  | counter _ => .counter

/-- The value as it is shown to people. -/
def text : Value → String
  | gauge value => value.text
  | counter count => count.text

/-- One line of a listing of metrics. -/
def listingLine (name : String) (value : Value) : String :=
  name ++ ": " ++ value.text ++ ";"

end Value

/-- A record as it travels. -/
structure Record where
  id : String
  type : RecordType
  delta : Option Count
  value : Option Binary64
  deriving DecidableEq, Repr, Inhabited

namespace Record

/-- The record of a gauge. -/
def gauge (id : String) (value : Binary64) : Record :=
  ⟨id, .known .gauge, none, some value⟩

/-- The record of a counter. -/
def counter (id : String) (delta : Count) : Record :=
  ⟨id, .known .counter, some delta, none⟩

/-- The record that asks for a metric: a name and a type and no number. -/
def query (id : String) (type : RecordType) : Record :=
  ⟨id, type, none, none⟩

/-- The record of a metric with the given value. -/
def ofValue (id : String) : Value → Record
  | .gauge value => gauge id value
  | .counter count => counter id count

end Record

/-- Records that travel and take effect as a whole. -/
abbrev Batch := List Record

end Telemetry
