import Telemetry.Json.Fields
import Telemetry.Json.Printer
import Telemetry.Store.Basic

/-!
# Snapshots

A snapshot is a store as JSON: an object with the members `gauge` and `counter`, each an object from names
to numbers. It is read from such an object, where a missing member stands for no metrics, from an array of
the two, and with the last of several equal names counting.
-/

namespace Telemetry

namespace Store

/-- The JSON value of a store. -/
def toJson (store : Store) : Json :=
  Json.ofMembers [
    ("gauge", Json.ofMembers (store.gauges.entries.map fun (name, value) =>
      (name, Json.ofBinary64 value))),
    ("counter", Json.ofMembers (store.counters.entries.map fun (name, total) =>
      (name, Json.ofInt total.toInt)))]

/-- The roster that a JSON object stands for. -/
def rosterOfJson? {Datum : Type} (read? : Json → Option Datum) (json : Json) :
    Option (Roster Datum) := do
  let members ← json.members?
  let entries ← members.mapM fun (name, value) => (read? value).map fun value => (name, value)
  return Roster.ofList entries

/-- The store that a JSON value stands for. -/
def ofJson? (json : Json) : Option Store :=
  match Json.fields? ["gauge", "counter"] json with
  | some [gauges, counters] => do
    let gauges ← rosterOfJson? Json.binary64? (gauges.getD (.object []))
    let counters ← rosterOfJson? Json.count? (counters.getD (.object []))
    return ⟨gauges, counters⟩
  | _ => none

/-- The snapshot that is written to a file, one metric on each line. -/
def snapshotBytes (store : Store) : Bytes :=
  store.toJson.bytes .indented

/-- The store that a snapshot holds. -/
def ofSnapshot? (bytes : Bytes) : Option Store :=
  (Json.ofBytes? bytes).bind ofJson?

end Store

end Telemetry
