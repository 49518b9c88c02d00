import Telemetry.Metric.Validation
import Telemetry.Store.Roster

/-!
# The store of metrics

A store holds the latest value of each gauge and the total of each counter. A gauge and a counter may have
the same name; neither knows of the other. `apply` is the one way a store changes: it replaces a gauge by
a finite value, or adds to a counter as long as the total stays in range, and refuses everything else.
-/

namespace Telemetry

/-- The stored gauges and counters. -/
structure Store where
  gauges : Roster Binary64
  counters : Roster Count
  deriving Inhabited

namespace Store

/-- The store that holds nothing. -/
def empty : Store := ⟨Roster.empty, Roster.empty⟩

/-- Stores are equal when they hold the same gauges and the same counters. -/
@[ext]
theorem ext {first second : Store} (sameGauges : first.gauges = second.gauges)
    (sameCounters : first.counters = second.counters) : first = second := by
  cases first
  cases second
  cases sameGauges
  cases sameCounters
  rfl

/-- The value of the metric with the given kind and name. -/
def get? (store : Store) (kind : Kind) (name : String) : Option Value :=
  match kind with
  | .gauge => (store.gauges.get? name).map Value.gauge
  | .counter => (store.counters.get? name).map Value.counter

/-- The total of a counter, which is zero before anything is added. -/
def total (store : Store) (name : String) : Count :=
  (store.counters.get? name).getD Count.zero

/-- Replaces a gauge by a finite value. -/
def setGauge (store : Store) (name : String) (value : Binary64) : Except ValidationError Store :=
  value.checkGauge.map fun _ => { store with gauges := store.gauges.insert name value }

/-- Adds to a counter and gives its new total too. -/
def addCounter (store : Store) (name : String) (delta : Count) :
    Except ValidationError (Store × Count) :=
  match (store.total name).add? delta with
  | some total => .ok ({ store with counters := store.counters.insert name total }, total)
  | none => .error (.counterOverflow name)

/-- Applies one update. -/
def apply (store : Store) (name : String) : Value → Except ValidationError Store
  | .gauge value => store.setGauge name value
  | .counter delta => (store.addCounter name delta).map Prod.fst

/-- Applies updates in order; the first refusal refuses them all. -/
def applyAll (store : Store) (updates : List (String × Value)) : Except ValidationError Store :=
  updates.foldlM (fun store (name, value) => store.apply name value) store

/-- Every metric: gauges first, each kind in ascending order of the names. -/
def toList (store : Store) : List (String × Value) :=
  (store.gauges.entries.map fun (name, value) => (name, .gauge value)) ++
    store.counters.entries.map fun (name, total) => (name, .counter total)

end Store

end Telemetry
