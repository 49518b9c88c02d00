import Telemetry.Log
import Telemetry.Store.Basic

/-!
# Batches

A batch of records takes effect as a whole or not at all. Its plan is the list of updates to apply:
records of an unknown type are passed over, and any other invalid record refuses the batch.
-/

namespace Telemetry

namespace Record

/-- Whether the type of a record names a kind. -/
def hasKnownType (record : Record) : Bool :=
  record.type.kind?.isSome

/-- The update that a valid record asks for. -/
def update (record : Record) : Except ValidationError (String × Value) :=
  record.validate.map fun value => (record.id, value)

/-- The line about a record of an unknown type. -/
def skippedLine (record : Record) : LogLine :=
  .warning ("Skipping metric '" ++ record.id ++ "' of unknown type '" ++ record.type.name ++ "'")

end Record

namespace Batch

/-- The updates that a batch asks for, in order. -/
def plan (records : List Record) : Except ValidationError (List (String × Value)) :=
  (records.filter Record.hasKnownType).mapM Record.update

/-- Whether a batch would not be refused on account of this record. -/
def isAcceptable (record : Record) : Bool :=
  !record.hasKnownType || record.validate.toOption.isSome

/-- The lines that planning a batch logs: one for each record passed over before the first invalid
one. -/
def planLog (records : List Record) : List LogLine :=
  ((records.takeWhile isAcceptable).filter fun record => !record.hasKnownType).map Record.skippedLine

end Batch

/-- Applies a whole batch, or nothing of it. -/
def Store.updateBatch (store : Store) (records : List Record) : Except ValidationError Store :=
  (Batch.plan records).bind store.applyAll

end Telemetry
