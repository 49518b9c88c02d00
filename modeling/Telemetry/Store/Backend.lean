import Telemetry.Action
import Telemetry.Store.Batch
import Telemetry.Store.Error

/-!
# What a service asks of a store

The service of metrics works over any backend that has these calls: a store in memory, a database, or one
whose calls all fail. Each call is an action in the world of the backend.
-/

namespace Telemetry

/-- The calls of a backend. -/
structure Backend (World : Type) where
  /-- Checks that the backend can be reached. -/
  ping : Action World StorageError Unit
  /-- Replaces a gauge. -/
  updateGauge : String → Binary64 → Action World StorageError Unit
  /-- Adds to a counter and gives its new total. -/
  updateCounter : String → Count → Action World StorageError Count
  /-- The value of a gauge. -/
  getGauge : String → Action World StorageError (Option Binary64)
  /-- The total of a counter. -/
  getCounter : String → Action World StorageError (Option Count)
  /-- The names of the gauges, in ascending order. -/
  gaugeNames : Action World StorageError (List String)
  /-- The names of the counters, in ascending order. -/
  counterNames : Action World StorageError (List String)
  /-- Applies a whole batch of records, or nothing of it. -/
  updateBatch : List Record → Action World StorageError Unit

/-- The backend whose calls all fail with one cause. -/
def Backend.failing {World : Type} (cause : StorageError) : Backend World where
  ping := .fail cause
  updateGauge _ _ := .fail cause
  updateCounter _ _ := .fail cause
  getGauge _ := .fail cause
  getCounter _ := .fail cause
  gaugeNames := .fail cause
  counterNames := .fail cause
  updateBatch _ := .fail cause

end Telemetry
