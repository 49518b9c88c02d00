import Telemetry.Proofs.Effects
import Telemetry.Proofs.Service.Batching

/-!
# What the service reads

Over a storage in memory the service reads what is in the store. The record that an update answers with is the one
that is read afterwards, and a listing of everything is the list of the store: each metric once, gauges before
counters, and each kind in ascending order of the names.
-/

namespace Telemetry

/-! ## The list of a store -/

namespace Roster

variable {Datum Shown : Type}

/-- The names with the values under them are the entries. -/
theorem filterMap_names (roster : Roster Datum) (shown : Datum → Shown) :
    roster.names.filterMap (fun name => (roster.get? name).map fun value => (name, shown value)) =
      roster.entries.map fun entry => (entry.1, shown entry.2) := by
  rw [names, List.filterMap_map, ← List.filterMap_eq_map]
  apply List.filterMap_congr
  intro entry listed
  have held : roster.get? entry.1 = some entry.2 := mem_entries_iff.1 listed
  simp [held]

end Roster

namespace Store

variable {store : Store} {name : String} {value : Value}

/-- The order of a listing: gauges come before counters, and each kind is in ascending order of the names. -/
def Precedes (first second : String × Value) : Prop :=
  first.2.kind = .gauge ∧ second.2.kind = .counter ∨ first.2.kind = second.2.kind ∧ first.1 < second.1

theorem mem_toList_iff : (name, value) ∈ store.toList ↔ store.get? value.kind name = some value := by
  cases value with
  | gauge value => simp [toList, get?, Value.kind, Roster.mem_entries_iff]
  | counter total => simp [toList, get?, Value.kind, Roster.mem_entries_iff]

theorem toList_ordered (store : Store) : store.toList.Pairwise Precedes := by
  rw [toList, List.pairwise_append, List.pairwise_map, List.pairwise_map]
  refine ⟨store.gauges.ascending.imp fun below => .inr ⟨rfl, below⟩,
    store.counters.ascending.imp fun below => .inr ⟨rfl, below⟩, ?_⟩
  intro first isGauge second isCounter
  obtain ⟨_, _, rfl⟩ := List.mem_map.1 isGauge
  obtain ⟨_, _, rfl⟩ := List.mem_map.1 isCounter
  exact .inl ⟨rfl, rfl⟩

end Store

/-! ## Reading -/

namespace Service

open MemoryStorage (backend)

variable {kind : Kind} {name : String}

theorem lookup_apply (kind : Kind) (name : String) (storage : MemoryStorage) :
    lookup backend kind name storage = ⟨.ok (storage.store.get? kind name), storage, []⟩ := by
  cases kind <;> rfl

/-- A record that names a metric is answered with the record of its value, if it is stored. -/
theorem value_apply {query : Record} (asks : query.checkQuery = .ok kind) (storage : MemoryStorage) :
    value backend query storage =
      match storage.store.get? kind query.id with
      | some value => ⟨.ok (Record.ofValue query.id value), storage, []⟩
      | none => ⟨.error (.notFound kind query.id), storage, []⟩ := by
  unfold value
  rw [asks]
  dsimp only
  rw [Action.bind_apply_of_eq_ok (lookup_apply kind query.id storage)]
  cases storage.store.get? kind query.id <;> rfl

theorem valuesOf_apply (kind : Kind) (names : List String) (storage : MemoryStorage) :
    valuesOf backend kind names storage =
      ⟨.ok (names.filterMap fun name => (storage.store.get? kind name).map fun value => (name, value)),
        storage, []⟩ := by
  induction names with
  | nil => rfl
  | cons name names inductionHypothesis =>
    rw [valuesOf, Action.bind_apply_of_eq_ok (lookup_apply kind name storage),
      Action.bind_apply_of_eq_ok inductionHypothesis, Action.pure_apply, List.filterMap_cons]
    cases storage.store.get? kind name <;> rfl

/-- A listing is the list of the store. -/
theorem list_apply (storage : MemoryStorage) :
    list backend storage = ⟨.ok storage.store.toList, storage, []⟩ := by
  have gaugeNames : call backend.gaugeNames storage = ⟨.ok storage.store.gauges.names, storage, []⟩ := rfl
  have counterNames : call backend.counterNames storage = ⟨.ok storage.store.counters.names, storage, []⟩ := rfl
  rw [list, Action.bind_apply_of_eq_ok gaugeNames, Action.bind_apply_of_eq_ok (valuesOf_apply _ _ _),
    Action.bind_apply_of_eq_ok counterNames, Action.bind_apply_of_eq_ok (valuesOf_apply _ _ _),
    Action.pure_apply]
  have gauges := storage.store.gauges.filterMap_names Value.gauge
  have counters := storage.store.counters.filterMap_names Value.counter
  simp only [Store.get?, Option.map_map, Function.comp_def, gauges, counters, Store.toList]

end Service

/-! ## Updates -/

namespace MemoryStorage

variable {storage : MemoryStorage} {name : String}

/-- A gauge that is set has its value. -/
theorem get?_updateGauge {value : Binary64} (done : (backend.updateGauge name value storage).result = .ok ()) :
    (backend.updateGauge name value storage).world.store.get? .gauge name = some (.gauge value) := by
  rw [updateGauge_result] at done
  rw [updateGauge_world]
  cases set : storage.store.setGauge name value with
  | error cause =>
    rw [set] at done
    cases done
  | ok next =>
    obtain ⟨_, rfl⟩ := Store.setGauge_eq_ok_iff.1 set
    simp [Store.get?]

/-- A counter that is added to has the total that is answered. -/
theorem get?_updateCounter {delta total : Count}
    (done : (backend.updateCounter name delta storage).result = .ok total) :
    (backend.updateCounter name delta storage).world.store.get? .counter name = some (.counter total) := by
  rw [updateCounter_result] at done
  rw [updateCounter_world]
  cases added : storage.store.addCounter name delta with
  | error cause =>
    rw [added] at done
    cases done
  | ok result =>
    rw [added] at done
    cases done
    obtain ⟨_, stored⟩ := Store.addCounter_eq_ok_iff.1 added
    simp [Except.map, ← stored, Store.get?]

end MemoryStorage

/-- An update that is done answers with the record of what is stored then. -/
theorem Service.exists_of_update_eq_ok {record stored : Record} {storage : MemoryStorage}
    (done : (update MemoryStorage.backend record storage).result = .ok stored) :
    ∃ value, record.checkQuery = .ok value.kind ∧ stored = Record.ofValue record.id value ∧
      (update MemoryStorage.backend record storage).world.store.get? value.kind record.id = some value := by
  have found {value : Value} {world other : MemoryStorage} (same : world = other)
      (held : other.store.get? value.kind record.id = some value) :
      world.store.get? value.kind record.id = some value := same ▸ held
  unfold update at done ⊢
  cases validated : record.validate with
  | error cause =>
    rw [validated] at done
    cases done
  | ok value =>
    rw [validated] at done
    cases value with
    | gauge reading =>
      obtain ⟨named, typed, _⟩ := Record.validate_eq_ok_gauge_iff.1 validated
      obtain ⟨_, called, rfl, sameWorld⟩ := Action.exists_of_bind_pure_eq_ok _ done
      exact ⟨.gauge reading, Record.checkQuery_eq_ok_iff.2 ⟨named, typed⟩, rfl,
        found sameWorld (MemoryStorage.get?_updateGauge called)⟩
    | counter delta =>
      obtain ⟨named, typed, _⟩ := Record.validate_eq_ok_counter_iff.1 validated
      obtain ⟨total, called, rfl, sameWorld⟩ := Action.exists_of_bind_pure_eq_ok _ done
      exact ⟨.counter total, Record.checkQuery_eq_ok_iff.2 ⟨named, typed⟩, rfl,
        found sameWorld (MemoryStorage.get?_updateCounter called)⟩

end Telemetry
