import Telemetry.Collector.Handler
import Telemetry.Store.Choice

/-!
# A storage in memory as one of either kind

The service and the collector reach their storage through the calls of a backend alone. So where the calls of
one backend do in a larger world what those of another do in a smaller one, everything that is built from
them does. A storage of either kind that is in memory is such a larger world.
-/

namespace Telemetry

variable {Small World Cause Other Result Next : Type} {embed : Small → World}

/-- The same outcome in a larger world. -/
def Outcome.within (embed : Small → World) (outcome : Outcome Small Result) : Outcome World Result :=
  ⟨outcome.result, embed outcome.world, outcome.log⟩

namespace Action

/-- The second action does in the larger world what the first does in the smaller one. -/
def Lifts (embed : Small → World) (inner : Action Small Cause Result) (outer : Action World Cause Result) :
    Prop :=
  ∀ small, outer (embed small) = (inner small).within embed

theorem Lifts.pure (result : Result) :
    Lifts embed (Pure.pure result : Action Small Cause Result) (Pure.pure result) :=
  fun _ => rfl

theorem Lifts.fail (cause : Cause) :
    Lifts embed (fail cause : Action Small Cause Result) (Action.fail cause) :=
  fun _ => rfl

theorem Lifts.ofExcept (result : Except Cause Result) :
    Lifts embed (ofExcept result : Action Small Cause Result) (Action.ofExcept result) :=
  fun _ => rfl

theorem Lifts.bind {inner : Action Small Cause Result} {outer : Action World Cause Result}
    {innerNext : Result → Action Small Cause Next} {outerNext : Result → Action World Cause Next}
    (first : Lifts embed inner outer) (second : ∀ result, Lifts embed (innerNext result) (outerNext result)) :
    Lifts embed (inner >>= innerNext) (outer >>= outerNext) := by
  intro small
  have same := first small
  have sameResult : (outer (embed small)).result = (inner small).result := by rw [same, Outcome.within]
  cases outcome : (inner small).result with
  | error cause =>
    rw [bind_apply_error (sameResult.trans outcome), bind_apply_error outcome, same]
    rfl
  | ok result =>
    rw [bind_apply_ok (sameResult.trans outcome), bind_apply_ok outcome, same]
    dsimp only [Outcome.within]
    rw [second result (inner small).world]
    rfl

theorem Lifts.mapCause {inner : Action Small Cause Result} {outer : Action World Cause Result}
    (lifts : Lifts embed inner outer) (convert : Cause → Other) :
    Lifts embed (inner.mapCause convert) (outer.mapCause convert) := by
  intro small
  rw [Action.mapCause, lifts small]
  rfl

end Action

/-- Each call of the second backend that only looks does in the larger world what that of the first does in the
smaller one. -/
structure Backend.LiftsReads (embed : Small → World) (inner : Backend Small) (outer : Backend World) :
    Prop where
  ping : Action.Lifts embed inner.ping outer.ping
  getGauge : ∀ name, Action.Lifts embed (inner.getGauge name) (outer.getGauge name)
  getCounter : ∀ name, Action.Lifts embed (inner.getCounter name) (outer.getCounter name)
  gaugeNames : Action.Lifts embed inner.gaugeNames outer.gaugeNames
  counterNames : Action.Lifts embed inner.counterNames outer.counterNames

/-- Each call of the second backend does in the larger world what that of the first does in the smaller
one. -/
structure Backend.Lifts (embed : Small → World) (inner : Backend Small) (outer : Backend World) : Prop
    extends Backend.LiftsReads embed inner outer where
  updateGauge : ∀ name value, Action.Lifts embed (inner.updateGauge name value) (outer.updateGauge name value)
  updateCounter : ∀ name delta,
    Action.Lifts embed (inner.updateCounter name delta) (outer.updateCounter name delta)
  updateBatch : ∀ records, Action.Lifts embed (inner.updateBatch records) (outer.updateBatch records)

variable {inner : Backend Small} {outer : Backend World}

/-! ## The service -/

namespace Service

theorem lifts_update (lifts : Backend.Lifts embed inner outer) (record : Record) :
    Action.Lifts embed (update inner record) (update outer record) := by
  unfold update
  split
  · exact .fail _
  · exact ((lifts.updateGauge _ _).mapCause _).bind fun _ => .pure _
  · exact ((lifts.updateCounter _ _).mapCause _).bind fun _ => .pure _

theorem lifts_updateBatch (lifts : Backend.Lifts embed inner outer) (records : List Record) :
    Action.Lifts embed (updateBatch inner records) (updateBatch outer records) := by
  unfold updateBatch
  split
  · exact .fail _
  · exact (lifts.updateBatch records).mapCause _

theorem lifts_lookup (lifts : Backend.LiftsReads embed inner outer) (kind : Kind) (name : String) :
    Action.Lifts embed (lookup inner kind name) (lookup outer kind name) := by
  cases kind with
  | gauge => exact ((lifts.getGauge name).mapCause _).bind fun _ => .pure _
  | counter => exact ((lifts.getCounter name).mapCause _).bind fun _ => .pure _

theorem lifts_value (lifts : Backend.LiftsReads embed inner outer) (query : Record) :
    Action.Lifts embed (value inner query) (value outer query) := by
  unfold value
  split
  · exact .fail _
  · refine (lifts_lookup lifts _ _).bind fun found => ?_
    cases found with
    | none => exact .fail _
    | some value => exact .pure _

theorem lifts_valuesOf (lifts : Backend.LiftsReads embed inner outer) (kind : Kind) (names : List String) :
    Action.Lifts embed (valuesOf inner kind names) (valuesOf outer kind names) := by
  induction names with
  | nil => exact .pure _
  | cons name names inductionHypothesis =>
    exact (lifts_lookup lifts kind name).bind fun _ => inductionHypothesis.bind fun _ => .pure _

theorem lifts_list (lifts : Backend.LiftsReads embed inner outer) :
    Action.Lifts embed (list inner) (list outer) :=
  (lifts.gaugeNames.mapCause _).bind fun gaugeNames =>
    (lifts_valuesOf lifts .gauge gaugeNames).bind fun _ =>
      (lifts.counterNames.mapCause _).bind fun counterNames =>
        (lifts_valuesOf lifts .counter counterNames).bind fun _ => .pure _

end Service

/-! ## The collector -/

theorem Command.lifts_query (lifts : Backend.LiftsReads embed inner outer) {command : Command}
    (query : command.isQuery = true) : Action.Lifts embed (command.perform inner) (command.perform outer) := by
  cases command with
  | list => exact ((Service.lifts_list lifts).mapCause _).bind fun _ => .pure _
  | ping => exact ((lifts.ping.mapCause _).mapCause _).bind fun _ => .pure _
  | «show» asked =>
    exact ((Service.lifts_value lifts asked).mapCause _).bind fun _ => (Action.Lifts.ofExcept _).bind fun _ =>
      .pure _
  | query asked => exact ((Service.lifts_value lifts asked).mapCause _).bind fun _ => .pure _
  | set record | update record | updateBatch records => cases query

theorem Command.lifts_perform (lifts : Backend.Lifts embed inner outer) (command : Command) :
    Action.Lifts embed (command.perform inner) (command.perform outer) := by
  cases command with
  | set record => exact ((Service.lifts_update lifts record).mapCause _).bind fun _ => .pure _
  | update record => exact ((Service.lifts_update lifts record).mapCause _).bind fun _ => .pure _
  | updateBatch records => exact ((Service.lifts_updateBatch lifts records).mapCause _).bind fun _ => .pure _
  | _ => exact lifts_query lifts.toLiftsReads rfl

theorem Gate.lifts_serve (lifts : Backend.Lifts embed inner outer) (gate : Gate) (request : Request) :
    Action.Lifts embed (gate.serve inner request) (gate.serve outer request) := by
  unfold serve
  split
  · exact Command.lifts_perform lifts _
  · exact .fail _

/-- A request gets the same response in both worlds, and leaves the same behind. -/
theorem Gate.handle_embed (lifts : Backend.Lifts embed inner outer) (gate : Gate) (request : Request)
    (small : Small) :
    let handled := gate.handle inner request small
    gate.handle outer request (embed small) = (handled.1, embed handled.2.1, handled.2.2) := by
  unfold handle
  rw [lifts_serve lifts gate request small]
  rfl

/-- A storage of either kind that is in memory answers as one in memory. -/
theorem Storage.backend_lifts : Backend.Lifts Storage.memory MemoryStorage.backend Storage.backend where
  ping _ := rfl
  updateGauge _ _ _ := rfl
  updateCounter _ _ _ := rfl
  getGauge _ _ := rfl
  getCounter _ _ := rfl
  gaugeNames _ := rfl
  counterNames _ := rfl
  updateBatch _ _ := rfl

end Telemetry
