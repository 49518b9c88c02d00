import Telemetry.Store.Backend

/-!
# The service of metrics

The service gives records their meaning over any backend: it validates what is sent, reads back what is
stored, and lists everything.
-/

namespace Telemetry

/-- Why the service did not do what it was asked. -/
inductive ServiceError
  | validation (cause : ValidationError)
  | notFound (kind : Kind) (name : String)
  | storage (cause : StorageError)
  deriving DecidableEq, Repr

namespace ServiceError

/-- A failure of storage as one of the service; a refusal by the store is the same refusal. -/
def ofStorage : StorageError → ServiceError
  | .validation cause => validation cause
  | cause => storage cause

/-- The wording of a failure. -/
def message : ServiceError → String
  | validation cause => cause.message
  | notFound kind name => kind.name ++ " metric '" ++ name ++ "' not found"
  | storage cause => "storage failure: " ++ cause.message

end ServiceError

namespace Service

variable {World : Type}

/-- A call of the backend, as the service sees it. -/
def call {Result : Type} (action : Action World StorageError Result) :
    Action World ServiceError Result :=
  action.mapCause ServiceError.ofStorage

/-- Checks that the backend can be reached. -/
def ping (backend : Backend World) : Action World ServiceError Unit :=
  call backend.ping

/-- Applies one record and gives the record of what is stored then. -/
def update (backend : Backend World) (record : Record) : Action World ServiceError Record :=
  match record.validate with
  | .error cause => .fail (.validation cause)
  | .ok (.gauge value) => do
    call (backend.updateGauge record.id value)
    return Record.gauge record.id value
  | .ok (.counter delta) => do
    let total ← call (backend.updateCounter record.id delta)
    return Record.counter record.id total

/-- Applies a whole batch of records, or nothing of it. -/
def updateBatch (backend : Backend World) (records : List Record) : Action World ServiceError Unit :=
  if records.isEmpty then .fail (.validation .emptyBatch) else call (backend.updateBatch records)

/-- The stored value of the metric with the given kind and name. -/
def lookup (backend : Backend World) (kind : Kind) (name : String) :
    Action World ServiceError (Option Value) :=
  match kind with
  | .gauge => do
    let value ← call (backend.getGauge name)
    return value.map Value.gauge
  | .counter => do
    let total ← call (backend.getCounter name)
    return total.map Value.counter

/-- The record of the metric that another record asks for. -/
def value (backend : Backend World) (query : Record) : Action World ServiceError Record :=
  match query.checkQuery with
  | .error cause => .fail (.validation cause)
  | .ok kind => do
    match ← lookup backend kind query.id with
    | some value => return Record.ofValue query.id value
    | none => Action.fail (.notFound kind query.id)

/-- The stored values of the metrics with the given names; a name without one is left out. -/
def valuesOf (backend : Backend World) (kind : Kind) :
    List String → Action World ServiceError (List (String × Value))
  | [] => .done []
  | name :: names => do
    let found ← lookup backend kind name
    let others ← valuesOf backend kind names
    return (found.map fun value => (name, value)).toList ++ others

/-- Every metric: gauges first, each kind in ascending order of the names. -/
def list (backend : Backend World) : Action World ServiceError (List (String × Value)) := do
  let gaugeNames ← call backend.gaugeNames
  let gauges ← valuesOf backend .gauge gaugeNames
  let counterNames ← call backend.counterNames
  let counters ← valuesOf backend .counter counterNames
  return gauges ++ counters

end Service

end Telemetry
