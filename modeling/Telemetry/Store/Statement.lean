import Telemetry.Store.Basic
import Telemetry.Store.Error

/-!
# Statements

A database keeps gauges in one table and counters in another. These are the statements that a store of
metrics makes, each with the type of its answer, and what they do to the tables.
-/

namespace Telemetry

/-- A statement, by the type of its answer. -/
inductive Statement : Type → Type
  | createGauges : Statement Unit
  | createCounters : Statement Unit
  | ping : Statement Unit
  /-- Replaces the value of a gauge. -/
  | upsertGauge (name : String) (value : Binary64) : Statement Unit
  /-- Adds to a counter, which is zero before, and answers the total. -/
  | upsertCounter (name : String) (delta : Count) : Statement Count
  | getGauge (name : String) : Statement (Option Binary64)
  | getCounter (name : String) : Statement (Option Count)
  | listGauges : Statement (List String)
  | listCounters : Statement (List String)

namespace Statement

/-- What a statement is called in a trace. -/
def label {Answer : Type} : Statement Answer → String
  | createGauges => "create_gauges"
  | createCounters => "create_counters"
  | ping => "ping"
  | upsertGauge _ _ => "upsert_gauge"
  | upsertCounter _ _ => "upsert_counter"
  | getGauge _ => "get_gauge"
  | getCounter _ => "get_counter"
  | listGauges => "list_gauges"
  | listCounters => "list_counters"

/-- What is filled into a statement. -/
def arguments {Answer : Type} : Statement Answer → List String
  | upsertGauge name value => [name, value.text]
  | upsertCounter name delta => [name, delta.text]
  | getGauge name => [name]
  | getCounter name => [name]
  | _ => []

/-- The database's report of a number that leaves its range. -/
def rangeError : DatabaseError :=
  .reported (some DatabaseError.outOfRange) "bigint out of range"

/-- What a statement does to the tables, and its answer. -/
def run {Answer : Type} (tables : Store) :
    Statement Answer → Except DatabaseError (Store × Answer)
  | createGauges | createCounters | ping => .ok (tables, ())
  | upsertGauge name value => .ok ({ tables with gauges := tables.gauges.insert name value }, ())
  | upsertCounter name delta =>
    match tables.counters.get? name with
    | none => .ok ({ tables with counters := tables.counters.insert name delta }, delta)
    | some stored =>
      match stored.add? delta with
      | some total => .ok ({ tables with counters := tables.counters.insert name total }, total)
      | none => .error rangeError
  | getGauge name => .ok (tables, tables.gauges.get? name)
  | getCounter name => .ok (tables, tables.counters.get? name)
  | listGauges => .ok (tables, tables.gauges.names)
  | listCounters => .ok (tables, tables.counters.names)

end Statement

end Telemetry
