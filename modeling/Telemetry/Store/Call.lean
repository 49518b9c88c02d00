import Telemetry.Store.Backend

/-!
# Calls of a storage

The calls of a backend as values, so that a history of a storage is a list of them: what was asked, in
which order, and what it answered.
-/

namespace Telemetry

/-- A call of a backend. -/
inductive StorageCall
  | ping
  | updateGauge (name : String) (value : Binary64)
  | updateCounter (name : String) (delta : Count)
  | getGauge (name : String)
  | getCounter (name : String)
  | gaugeNames
  | counterNames
  | updateBatch (records : List Record)
  deriving DecidableEq, Repr

/-- What a call answers when it succeeds. -/
inductive StorageAnswer
  | done
  | total (total : Count)
  | gauge (value : Option Binary64)
  | counter (total : Option Count)
  | names (names : List String)
  deriving DecidableEq, Repr

namespace Backend

variable {World : Type}

/-- Makes a call. -/
def perform (backend : Backend World) : StorageCall → Action World StorageError StorageAnswer
  | .ping => do
    backend.ping
    return .done
  | .updateGauge name value => do
    backend.updateGauge name value
    return .done
  | .updateCounter name delta => do return .total (← backend.updateCounter name delta)
  | .getGauge name => do return .gauge (← backend.getGauge name)
  | .getCounter name => do return .counter (← backend.getCounter name)
  | .gaugeNames => do return .names (← backend.gaugeNames)
  | .counterNames => do return .names (← backend.counterNames)
  | .updateBatch records => do
    backend.updateBatch records
    return .done

/-- Makes calls one after another: the world after them, and what each answered. -/
def performAll (backend : Backend World) (world : World) :
    List StorageCall → World × List (Except StorageError StorageAnswer)
  | [] => (world, [])
  | call :: calls =>
    let outcome := backend.perform call world
    let (final, answers) := backend.performAll outcome.world calls
    (final, outcome.result :: answers)

end Backend

/-! ## Among others -/

/-- A world that other clients change too. -/
structure Shared (World : Type) where
  world : World
  /-- What the others call before each of the calls to come. -/
  others : List (List StorageCall)

namespace Shared

variable {World Result : Type}

/-- Lets the others call, as far as it is their turn. -/
def letOthers (backend : Backend World) (shared : Shared World) : Shared World :=
  ⟨(backend.performAll shared.world (shared.others.headD [])).1, shared.others.tail⟩

/-- A call that comes after those of the others. -/
def afterOthers (backend : Backend World) (action : Action World StorageError Result) :
    Action (Shared World) StorageError Result := fun shared =>
  let before := shared.letOthers backend
  let outcome := action before.world
  ⟨outcome.result, { before with world := outcome.world }, outcome.log⟩

end Shared

/-- A backend as one of its clients sees it, between whose calls others make theirs. -/
def Backend.amongOthers {World : Type} (backend : Backend World) : Backend (Shared World) :=
  { ping := Shared.afterOthers backend backend.ping
    updateGauge := fun name value => Shared.afterOthers backend (backend.updateGauge name value)
    updateCounter := fun name delta => Shared.afterOthers backend (backend.updateCounter name delta)
    getGauge := fun name => Shared.afterOthers backend (backend.getGauge name)
    getCounter := fun name => Shared.afterOthers backend (backend.getCounter name)
    gaugeNames := Shared.afterOthers backend backend.gaugeNames
    counterNames := Shared.afterOthers backend backend.counterNames
    updateBatch := fun records => Shared.afterOthers backend (backend.updateBatch records) }

end Telemetry
