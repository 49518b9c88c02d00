import Telemetry.Proofs.Metric.Wire
import Telemetry.Proofs.Store.Replay
import Telemetry.Store.Flusher

/-!
# Reading snapshots back

JSON has no number for an infinity or a non-number. A store never holds one: it starts without gauges or
from a snapshot, and an update that would put one in is refused. So every store that there is can be read
back from its snapshot.
-/

namespace Telemetry

namespace Store

variable {store next : Store} {updates : List (String × Value)}

/-- All gauges have finite values. -/
def IsFinite (store : Store) : Prop :=
  ∀ entry ∈ store.gauges.entries, entry.2.isFinite = true

/-! ## Finite stores -/

theorem isFinite_empty : empty.IsFinite := nofun

theorem IsFinite.apply {name : String} {value : Value} (finite : store.IsFinite)
    (applied : store.apply name value = .ok next) : next.IsFinite := by
  cases value with
  | gauge value =>
    obtain ⟨isFinite, rfl⟩ := apply_gauge_eq_ok_iff.1 applied
    intro entry member
    rcases Roster.mem_place member with rfl | wasThere
    · exact isFinite
    · exact finite entry wasThere
  | counter delta =>
    obtain ⟨_, _, rfl⟩ := apply_counter_eq_ok_iff.1 applied
    exact finite

theorem IsFinite.applyAll (finite : store.IsFinite) (applied : store.applyAll updates = .ok next) :
    next.IsFinite := by
  induction updates generalizing store with
  | nil =>
    cases applied
    exact finite
  | cons update updates inductionHypothesis =>
    obtain ⟨middle, first, others⟩ := applyAll_cons_eq_ok_iff.1 applied
    exact inductionHypothesis (finite.apply first) others

/-- Every entry of a roster that is read from JSON has been read from some value. -/
theorem exists_of_rosterOfJson? {Datum : Type} {read? : Json → Option Datum} {json : Json}
    {roster : Roster Datum} (read : rosterOfJson? read? json = some roster) :
    ∀ entry ∈ roster.entries, ∃ value, read? value = some entry.2 := by
  obtain ⟨members, _, followed⟩ := Option.bind_eq_some_iff.1 read
  obtain ⟨entries, each, same⟩ := Option.bind_eq_some_iff.1 followed
  cases same
  intro entry member
  have inList := Roster.mem_of_mem_ofList member
  obtain ⟨⟨name, value⟩, _, turned⟩ := exists_of_mem_of_mapM each inList
  obtain ⟨datum, found, rfl⟩ := Option.map_eq_some_iff.1 turned
  exact ⟨value, found⟩

/-- What is read from a snapshot is finite. -/
theorem isFinite_of_ofSnapshot? {content : Bytes} (read : ofSnapshot? content = some store) :
    store.IsFinite := by
  obtain ⟨json, _, ofJson⟩ := Option.bind_eq_some_iff.1 read
  unfold ofJson? at ofJson
  split at ofJson
  · obtain ⟨gauges, readGauges, followed⟩ := Option.bind_eq_some_iff.1 ofJson
    obtain ⟨counters, _, same⟩ := Option.bind_eq_some_iff.1 followed
    cases same
    intro entry member
    obtain ⟨value, found⟩ := exists_of_rosterOfJson? readGauges entry member
    exact Json.isFinite_of_binary64? found
  · cases ofJson

/-! ## Snapshots -/

/-- A roster as a JSON object from names to values. -/
def jsonOfRoster {Datum : Type} (write : Datum → Json) (roster : Roster Datum) : Json :=
  Json.ofMembers (roster.entries.map fun entry => (entry.1, write entry.2))

theorem toJson_eq (store : Store) :
    store.toJson = Json.ofMembers [("gauge", jsonOfRoster Json.ofBinary64 store.gauges),
      ("counter", jsonOfRoster (fun total => Json.ofInt total.toInt) store.counters)] := rfl

theorem rosterOfJson?_jsonOfRoster {Datum : Type} {read? : Json → Option Datum} {write : Datum → Json}
    {roster : Roster Datum} (back : ∀ entry ∈ roster.entries, read? (write entry.2) = some entry.2) :
    rosterOfJson? read? (jsonOfRoster write roster) = some roster := by
  have each : (roster.entries.map fun entry => (entry.1, write entry.2)).mapM
      (fun member => (read? member.2).map fun value => (member.1, value)) = some roster.entries := by
    apply mapM_map_eq_some
    intro entry member
    exact congrArg (Option.map _) (back entry member)
  change (Json.ofMembers _).members?.bind _ = _
  rw [Json.members?_ofMembers, Option.bind_some]
  change Option.bind (List.mapM _ _) _ = _
  refine (congrArg (Option.bind · _) each).trans ?_
  exact congrArg some (Roster.ofList_entries roster)

theorem ofJson?_toJson (finite : store.IsFinite) : ofJson? store.toJson = some store := by
  have gauges : rosterOfJson? Json.binary64? (jsonOfRoster Json.ofBinary64 store.gauges) =
      some store.gauges :=
    rosterOfJson?_jsonOfRoster fun entry member => Json.binary64?_ofBinary64 (finite entry member)
  have counters : rosterOfJson? Json.count?
      (jsonOfRoster (fun total => Json.ofInt total.toInt) store.counters) = some store.counters :=
    rosterOfJson?_jsonOfRoster fun entry _ => Json.count?_ofInt entry.2
  have fields : Json.fields? ["gauge", "counter"] store.toJson =
      some [some (jsonOfRoster Json.ofBinary64 store.gauges),
        some (jsonOfRoster (fun total => Json.ofInt total.toInt) store.counters)] := by
    rw [toJson_eq, Json.fields?_ofMembers]
    simp [Json.single?]
  rw [ofJson?, fields]
  simp [gauges, counters]

theorem wellFormed_jsonOfRoster {Datum : Type} {write : Datum → Json}
    (each : ∀ datum, (write datum).WellFormed) (roster : Roster Datum) :
    (jsonOfRoster write roster).WellFormed := by
  apply Json.wellFormed_ofMembers
  intro member listed
  obtain ⟨entry, _, rfl⟩ := List.mem_map.1 listed
  exact each entry.2

theorem wellFormed_toJson (store : Store) : store.toJson.WellFormed := by
  rw [toJson_eq]
  apply Json.wellFormed_ofMembers
  intro member listed
  simp only [List.mem_cons, List.not_mem_nil, or_false] at listed
  rcases listed with rfl | rfl
  · exact wellFormed_jsonOfRoster Json.wellFormed_ofBinary64 store.gauges
  · exact wellFormed_jsonOfRoster (fun total => Json.wellFormed_ofInt total.toInt) store.counters

/-- A store is read back from its snapshot. -/
theorem ofSnapshot?_snapshotBytes (finite : store.IsFinite) :
    ofSnapshot? store.snapshotBytes = some store := by
  rw [ofSnapshot?, snapshotBytes, (wellFormed_toJson store).ofBytes?_bytes Json.Spacing.indented_isBlank,
    Option.bind_some, ofJson?_toJson finite]

end Store

namespace MemoryStorage

variable {storage : MemoryStorage} {store : Store}

/-- The store in the snapshot of a storage, if there is a snapshot that can be read. -/
def snapshot? (storage : MemoryStorage) : Option Store :=
  storage.file.bind fun file => (storage.disk.read file.path).toOption.bind Store.ofSnapshot?

/-- A snapshot that can be read takes the place of the store. -/
theorem load_of_snapshot?_eq_some (read : storage.snapshot? = some store) :
    load storage = ⟨.ok true, { storage with store }, []⟩ := by
  obtain ⟨file, kept, followed⟩ := Option.bind_eq_some_iff.1 read
  obtain ⟨content, found, decoded⟩ := Option.bind_eq_some_iff.1 followed
  unfold load
  rw [kept]
  dsimp only
  cases onDisk : storage.disk.read file.path with
  | error cause =>
    rw [onDisk] at found
    cases found
  | ok other =>
    rw [onDisk] at found
    cases found
    simp only [decoded]

/-- Without a snapshot that can be read, nothing is loaded. -/
theorem load_of_snapshot?_eq_none (unread : storage.snapshot? = none) :
    (load storage).result ≠ .ok true ∧ (load storage).world = storage := by
  unfold load
  cases kept : storage.file with
  | none => simp
  | some file =>
    dsimp only
    cases onDisk : storage.disk.read file.path with
    | error cause => cases cause <;> simp
    | ok content =>
      have malformed : Store.ofSnapshot? content = none := by
        simpa [snapshot?, kept, onDisk, Except.toOption] using unread
      simp [malformed]

theorem isFinite_of_snapshot? (read : storage.snapshot? = some store) : store.IsFinite := by
  obtain ⟨_, _, followed⟩ := Option.bind_eq_some_iff.1 read
  obtain ⟨_, _, decoded⟩ := Option.bind_eq_some_iff.1 followed
  exact Store.isFinite_of_ofSnapshot? decoded

/-- Whatever is on the disk, a finite store is followed by a finite one when the snapshot is loaded. -/
theorem isFinite_load (finite : storage.store.IsFinite) : (load storage).world.store.IsFinite := by
  cases read : storage.snapshot? with
  | none =>
    rw [(load_of_snapshot?_eq_none read).2]
    exact finite
  | some store =>
    rw [load_of_snapshot?_eq_some read]
    exact isFinite_of_snapshot? read

/-- A storage in memory starts with a finite store, whether it is restored or not. -/
theorem isFinite_start (file : Option SnapshotFile) (restore : Bool) (disk : Disk) :
    (start file restore disk).world.store.IsFinite := by
  cases restore with
  | false => exact Store.isFinite_empty
  | true => exact isFinite_load Store.isFinite_empty

end MemoryStorage

end Telemetry
