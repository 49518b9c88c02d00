import Mathlib.Data.List.Nodup
import Telemetry.Proofs.Service.Reading
import Telemetry.Proofs.Store.Accounting

/-!
# Listing while others call

A listing takes many calls: one for the names of each kind, and one for the value under each name. Other
clients may call in between, so a listing need not be the list of any one store. But no call takes a metric
away. A name that has been read has a value when it comes to reading that, and what was there in the beginning
is still there whenever the names are read.
-/

namespace Telemetry

theorem Backend.performAll_append_world {World : Type} (backend : Backend World) (world : World)
    (earlier later : List StorageCall) :
    (backend.performAll world (earlier ++ later)).1 =
      (backend.performAll (backend.performAll world earlier).1 later).1 := by
  induction earlier generalizing world with
  | nil => rfl
  | cons call calls inductionHypothesis =>
    rw [List.cons_append, performAll_cons_world, inductionHypothesis, performAll_cons_world]

/-! ## Turns of the others -/

namespace Shared

variable {World : Type} {backend : Backend World} {shared : Shared World}

/-- What a client that changes nothing finds when the others have had so many turns. -/
def later (backend : Backend World) (shared : Shared World) (turns : Nat) : Shared World :=
  ⟨(backend.performAll shared.world (shared.others.take turns).flatten).1, shared.others.drop turns⟩

@[simp]
theorem later_zero : shared.later backend 0 = shared := rfl

theorem later_add (turns more : Nat) :
    shared.later backend (turns + more) = (shared.later backend turns).later backend more := by
  simp only [later, List.take_add, List.flatten_append, Backend.performAll_append_world, List.drop_drop]

theorem letOthers_eq_later : shared.letOthers backend = shared.later backend 1 := by
  obtain ⟨world, others⟩ := shared
  cases others <;> simp [letOthers, later]

end Shared

/-! ## Metrics that stay -/

namespace Store

variable {store : Store} {kind : Kind} {name : String}

/-- The names of the metrics of a kind, in ascending order. -/
def names (store : Store) : Kind → List String
  | .gauge => store.gauges.names
  | .counter => store.counters.names

theorem mem_names_iff : name ∈ store.names kind ↔ (store.get? kind name).isSome := by
  cases kind <;> simp [names, get?, Roster.mem_names_iff]

theorem kind_of_get?_eq_some {value : Value} (found : store.get? kind name = some value) :
    value.kind = kind := by
  cases kind with
  | gauge =>
    obtain ⟨reading, _, rfl⟩ := Option.map_eq_some_iff.1 found
    rfl
  | counter =>
    obtain ⟨total, _, rfl⟩ := Option.map_eq_some_iff.1 found
    rfl

theorem names_ascending (store : Store) (kind : Kind) : (store.names kind).Pairwise (· < ·) := by
  cases kind with
  | gauge => exact store.gauges.names_ascending
  | counter => exact store.counters.names_ascending

/-- The kind and the name, which tell a metric from all others. -/
def metricOf (listed : String × Value) : Kind × String :=
  (listed.2.kind, listed.1)

theorem Precedes.metricOf_ne {first second : String × Value} (precedes : Precedes first second) :
    metricOf first ≠ metricOf second := by
  intro same
  obtain ⟨sameKind, sameName⟩ := Prod.mk.inj same
  rcases precedes with ⟨isGauge, isCounter⟩ | ⟨_, below⟩
  · rw [isGauge, isCounter] at sameKind
    cases sameKind
  · exact String.ne_of_lt below sameName

end Store

namespace MemoryStorage

variable {shared : Shared MemoryStorage} {kind : Kind} {name : String}

/-- No call takes a metric away. -/
theorem isSome_get?_performAll {storage : MemoryStorage} (stored : (storage.store.get? kind name).isSome)
    (calls : List StorageCall) : ((backend.performAll storage calls).1.store.get? kind name).isSome :=
  (Store.isSome_get?_applyAll kind name (applyAll_log storage calls)).2 (.inl stored)

theorem isSome_get?_later {turn turns : Nat} (notBefore : turn ≤ turns)
    (stored : ((shared.later backend turn).world.store.get? kind name).isSome) :
    ((shared.later backend turns).world.store.get? kind name).isSome := by
  rw [← Nat.add_sub_cancel' notBefore, Shared.later_add]
  exact isSome_get?_performAll stored _

/-- To look at the store takes one turn of the others, and shows the store after it. -/
theorem afterOthers_inspect {Result : Type} (view : Store → Result) (shared : Shared MemoryStorage)
    (turns : Nat) :
    Shared.afterOthers backend (inspect view) (shared.later backend turns) =
      ⟨.ok (view (shared.later backend (turns + 1)).world.store), shared.later backend (turns + 1), []⟩ := by
  rw [Shared.afterOthers, Shared.letOthers_eq_later, ← Shared.later_add]
  rfl

end MemoryStorage

namespace Service

open MemoryStorage (backend isSome_get?_later)
open Store (metricOf)

variable {shared : Shared MemoryStorage} {kind : Kind} {turns : Nat}

/-- A read of the service among others. -/
theorem call_afterOthers_inspect {Result : Type} (view : Store → Result) (shared : Shared MemoryStorage)
    (turns : Nat) :
    call (Shared.afterOthers backend (MemoryStorage.inspect view)) (shared.later backend turns) =
      ⟨.ok (view (shared.later backend (turns + 1)).world.store), shared.later backend (turns + 1), []⟩ := by
  rw [call, Action.mapCause, MemoryStorage.afterOthers_inspect]
  rfl

theorem lookup_amongOthers (kind : Kind) (name : String) (shared : Shared MemoryStorage) (turns : Nat) :
    lookup backend.amongOthers kind name (shared.later backend turns) =
      ⟨.ok ((shared.later backend (turns + 1)).world.store.get? kind name),
        shared.later backend (turns + 1), []⟩ := by
  cases kind with
  | gauge =>
    have called := call_afterOthers_inspect (fun store => store.gauges.get? name) shared turns
    exact Action.bind_apply_of_eq_ok called
  | counter =>
    have called := call_afterOthers_inspect (fun store => store.counters.get? name) shared turns
    exact Action.bind_apply_of_eq_ok called

/-- The metrics of one kind that a client has read: the names at one of the turns of the others, and each value
at a later one. -/
structure ReadDuring (shared : Shared MemoryStorage) (kind : Kind) (first last : Nat)
    (metrics : List (String × Value)) : Prop where
  names_eq : metrics.map Prod.fst = (shared.later backend first).world.store.names kind
  kind_eq : ∀ metric ∈ metrics, metric.2.kind = kind
  exists_value : ∀ metric ∈ metrics, ∃ turn ≤ last,
    (shared.later backend turn).world.store.get? metric.2.kind metric.1 = some metric.2

/-- Values that are there are all read, one in each turn. -/
theorem exists_valuesOf_amongOthers {names : List String}
    (stored : ∀ name ∈ names, ((shared.later backend turns).world.store.get? kind name).isSome) :
    ∃ metrics, valuesOf backend.amongOthers kind names (shared.later backend turns) =
        ⟨.ok metrics, shared.later backend (turns + metrics.length), []⟩ ∧
      metrics.map Prod.fst = names ∧ ∀ metric ∈ metrics, ∃ turn ≤ turns + metrics.length,
        (shared.later backend turn).world.store.get? kind metric.1 = some metric.2 := by
  induction names generalizing turns with
  | nil => exact ⟨[], rfl, rfl, fun _ listed => absurd listed List.not_mem_nil⟩
  | cons name names inductionHypothesis =>
    have stays := fun other listed => isSome_get?_later (Nat.le_add_right turns 1) (stored other listed)
    obtain ⟨value, found⟩ := Option.isSome_iff_exists.1 (stays name List.mem_cons_self)
    obtain ⟨metrics, read, sameNames, eachRead⟩ := inductionHypothesis
      fun other listed => stays other (List.mem_cons_of_mem _ listed)
    rw [Nat.add_right_comm] at read eachRead
    refine ⟨(name, value) :: metrics, ?_, by rw [List.map_cons, sameNames], ?_⟩
    · rw [valuesOf, Action.bind_apply_of_eq_ok (lookup_amongOthers kind name shared turns),
        Action.bind_apply_of_eq_ok read, found]
      rfl
    · intro metric listed
      rcases List.mem_cons.1 listed with rfl | later
      · exact ⟨turns + 1, by simp, found⟩
      · exact eachRead metric later

/-- No name that has been read is dropped: its value is still there. -/
theorem exists_readDuring (kind : Kind) (shared : Shared MemoryStorage) (turns : Nat) :
    ∃ metrics, valuesOf backend.amongOthers kind ((shared.later backend turns).world.store.names kind)
        (shared.later backend turns) = ⟨.ok metrics, shared.later backend (turns + metrics.length), []⟩ ∧
      ReadDuring shared kind turns (turns + metrics.length) metrics := by
  have stored : ∀ name ∈ (shared.later backend turns).world.store.names kind,
      ((shared.later backend turns).world.store.get? kind name).isSome :=
    fun _ => Store.mem_names_iff.1
  obtain ⟨metrics, read, sameNames, eachRead⟩ := exists_valuesOf_amongOthers stored
  have areKind : ∀ metric ∈ metrics, metric.2.kind = kind := by
    intro metric listed
    obtain ⟨_, _, found⟩ := eachRead metric listed
    exact Store.kind_of_get?_eq_some found
  refine ⟨metrics, read, sameNames, areKind, fun metric listed => ?_⟩
  rw [areKind metric listed]
  exact eachRead metric listed

/-! ## The listing -/

/-- What a listing tells that is taken while the others have so many turns: every metric that was there in the
beginning, none twice, none that is not there in the end, gauges first and each kind in ascending order of the
names, each metric with a value that it had at one of the turns, and of each kind exactly the names that were
there at one of them. -/
structure ListedDuring (shared : Shared MemoryStorage) (turns : Nat) (listing : List (String × Value)) :
    Prop where
  count_eq_one : ∀ kind name, (shared.world.store.get? kind name).isSome →
    (listing.map metricOf).count (kind, name) = 1
  nodup : (listing.map metricOf).Nodup
  isSome : ∀ metric ∈ listing,
    ((shared.later backend turns).world.store.get? metric.2.kind metric.1).isSome
  ordered : listing.Pairwise Store.Precedes
  exists_value : ∀ metric ∈ listing, ∃ turn ≤ turns,
    (shared.later backend turn).world.store.get? metric.2.kind metric.1 = some metric.2
  exists_names : ∀ kind, ∃ turn ≤ turns,
    (listing.filter fun metric => metric.2.kind = kind).map Prod.fst =
      (shared.later backend turn).world.store.names kind

namespace ReadDuring

variable {first last : Nat} {metrics : List (String × Value)}

theorem ordered (read : ReadDuring shared kind first last metrics) : metrics.Pairwise Store.Precedes := by
  have ascending := Store.names_ascending (shared.later backend first).world.store kind
  rw [← read.names_eq, List.pairwise_map] at ascending
  exact ascending.imp_of_mem fun isFirst isSecond below =>
    .inr ⟨(read.kind_eq _ isFirst).trans (read.kind_eq _ isSecond).symm, below⟩

theorem filter_kind (read : ReadDuring shared kind first last metrics) (asked : Kind) :
    metrics.filter (fun metric => metric.2.kind = asked) = if kind = asked then metrics else [] := by
  split
  case isTrue same =>
    apply List.filter_eq_self.2
    intro metric listed
    simp [read.kind_eq metric listed, same]
  case isFalse different =>
    apply List.filter_eq_nil_iff.2
    intro metric listed
    simp [read.kind_eq metric listed, different]

end ReadDuring

/-- The gauges and then the counters make a listing. -/
theorem ReadDuring.listed {gauges counters : List (String × Value)} {gaugeTurn counterTurn last : Nat}
    (gaugesRead : ReadDuring shared .gauge gaugeTurn last gauges)
    (countersRead : ReadDuring shared .counter counterTurn turns counters)
    (inOrder : gaugeTurn ≤ last ∧ last ≤ counterTurn ∧ counterTurn ≤ turns) :
    ListedDuring shared turns (gauges ++ counters) := by
  obtain ⟨gaugesInOrder, gaugesFirst, countersInOrder⟩ := inOrder
  have ordered : (gauges ++ counters).Pairwise Store.Precedes :=
    List.pairwise_append.2 ⟨gaugesRead.ordered, countersRead.ordered, fun first isGauge second isCounter =>
      .inl ⟨gaugesRead.kind_eq first isGauge, countersRead.kind_eq second isCounter⟩⟩
  have nodup : ((gauges ++ counters).map metricOf).Nodup :=
    List.pairwise_map.2 (ordered.imp Store.Precedes.metricOf_ne)
  have values : ∀ metric ∈ gauges ++ counters, ∃ turn ≤ turns,
      (shared.later backend turn).world.store.get? metric.2.kind metric.1 = some metric.2 := by
    intro metric listed
    rcases List.mem_append.1 listed with isGauge | isCounter
    · obtain ⟨turn, inTime, found⟩ := gaugesRead.exists_value metric isGauge
      exact ⟨turn, by omega, found⟩
    · exact countersRead.exists_value metric isCounter
  have names : ∀ kind, ∃ turn ≤ turns,
      ((gauges ++ counters).filter fun metric => metric.2.kind = kind).map Prod.fst =
        (shared.later backend turn).world.store.names kind := by
    intro kind
    rw [List.filter_append, gaugesRead.filter_kind, countersRead.filter_kind]
    cases kind with
    | gauge => exact ⟨gaugeTurn, by omega, by simpa using gaugesRead.names_eq⟩
    | counter => exact ⟨counterTurn, countersInOrder, by simpa using countersRead.names_eq⟩
  refine ⟨fun kind name stored => ?_, nodup, fun metric listed => ?_, ordered, values, names⟩
  · obtain ⟨turn, _, sameNames⟩ := names kind
    have isName : name ∈ (shared.later backend turn).world.store.names kind :=
      Store.mem_names_iff.2 (isSome_get?_later (Nat.zero_le turn) stored)
    rw [← sameNames] at isName
    obtain ⟨metric, found, rfl⟩ := List.mem_map.1 isName
    obtain ⟨listed, isKind⟩ := List.mem_filter.1 found
    exact List.count_eq_one_of_mem nodup
      (List.mem_map.2 ⟨metric, listed, by rw [metricOf, of_decide_eq_true isKind]⟩)
  · obtain ⟨turn, inTime, found⟩ := values metric listed
    exact isSome_get?_later inTime (Option.isSome_of_eq_some found)

/-- Whatever others call between the calls that a listing takes, it succeeds, and it lists what was there: every
metric of the beginning, none twice, none that is not there in the end, in order, and each with a value that it
had meanwhile. It takes one call for each metric and two for the names. -/
theorem lists_among_others (shared : Shared MemoryStorage) :
    ∃ listing, list backend.amongOthers shared =
        ⟨.ok listing, shared.later backend (listing.length + 2), []⟩ ∧
      ListedDuring shared (listing.length + 2) listing := by
  have gaugeNames := call_afterOthers_inspect (fun store => store.gauges.names) shared 0
  obtain ⟨gauges, gaugeValues, gaugesRead⟩ := exists_readDuring .gauge shared 1
  have counterNames := call_afterOthers_inspect (fun store => store.counters.names) shared (1 + gauges.length)
  obtain ⟨counters, counterValues, countersRead⟩ := exists_readDuring .counter shared (1 + gauges.length + 1)
  have turns : 1 + gauges.length + 1 + counters.length = (gauges ++ counters).length + 2 := by
    rw [List.length_append]
    omega
  rw [turns] at counterValues countersRead
  refine ⟨gauges ++ counters, ?_, gaugesRead.listed countersRead (by omega)⟩
  refine (Action.bind_apply_of_eq_ok gaugeNames).trans ?_
  refine (Action.bind_apply_of_eq_ok gaugeValues).trans ?_
  refine (Action.bind_apply_of_eq_ok counterNames).trans ?_
  exact Action.bind_apply_of_eq_ok counterValues

/-- No store there was held these two values together. -/
example :
    let one : Count := ⟨1, by decide, by decide⟩
    let shared : Shared MemoryStorage :=
      { world := ⟨⟨Roster.ofList [("load", Binary64.zero false)], Roster.empty⟩, none, Disk.empty⟩
        others := [[], [], [.updateGauge "load" (Binary64.zero true), .updateCounter "hits" one]] }
    (list backend.amongOthers shared).result =
      .ok [("load", .gauge (Binary64.zero false)), ("hits", .counter one)] := by
  rfl

end Service

end Telemetry
