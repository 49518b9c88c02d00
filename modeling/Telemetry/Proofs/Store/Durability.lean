import Telemetry.Proofs.Disk
import Telemetry.Proofs.Run
import Telemetry.Proofs.Store.Saving
import Telemetry.Proofs.Store.Snapshot
import Telemetry.Store.Flusher

/-!
# Durability of updates

Clients update a store and save it in steps of their own. Wherever that stops, the snapshot on the disk is
the one that was there before, or it holds the store as it was after some of the updates, in the order in
which they took effect. The number of these never falls, and an update whose client has been told of success
is among them.

Two things make it so. A client copies the store after its own update and while it alone may write, so a copy
has at least as many updates as the snapshot that it replaces; and nobody else writes beside the snapshot
until the copy is in place.
-/

namespace Telemetry

namespace SavingEffect

/-- The client whom an effect is about. -/
def client : SavingEffect → Nat
  | refused client _ | updated client _ | returned client _ => client

/-- The updates that have taken effect, if any have. -/
def applied? : SavingEffect → Option (List (String × Value))
  | updated _ updates => some updates
  | refused _ _ | returned _ _ => none

end SavingEffect

namespace Saving

variable {opened : Store} {disk : Disk} {path : String} {kept higher count client other number : Nat}
  {done later effects : List SavingEffect} {effect : SavingEffect} {event : SavingEvent}
  {saving next : Saving} {content : Bytes} {beside : Except IoError Bytes} {phase : SavingPhase}

/-! ## Histories -/

/-- The updates that have taken effect, in order. -/
def applied (effects : List SavingEffect) : List (List (String × Value)) :=
  effects.filterMap SavingEffect.applied?

/-- The last thing that a client has done is the update with the given number. -/
def Underway (effects : List SavingEffect) (client number : Nat) : Prop :=
  ∃ before updates after, effects = before ++ .updated client updates :: after ∧
    (∀ effect ∈ after, effect.client ≠ client) ∧ (applied before).length = number

/-- The client of the update with the given number has been told that it is saved. -/
def Acknowledged (effects : List SavingEffect) (number : Nat) : Prop :=
  ∃ before client after, effects = before ++ .returned client none :: after ∧ Underway before client number

@[simp]
theorem applied_append : applied (done ++ later) = applied done ++ applied later :=
  List.filterMap_append

@[simp]
theorem applied_refused (client : Nat) (cause : ValidationError) : applied [.refused client cause] = [] := rfl

@[simp]
theorem applied_updated (client : Nat) (updates : List (String × Value)) :
    applied [.updated client updates] = [updates] := rfl

@[simp]
theorem applied_returned (client : Nat) (failure : Option IoError) :
    applied [.returned client failure] = [] := rfl

theorem Underway.lt (underway : Underway done client number) : number < (applied done).length := by
  obtain ⟨before, updates, after, rfl, _, rfl⟩ := underway
  simp [applied, SavingEffect.applied?]

/-- What one of others does leaves an update the last thing that its client has done. -/
theorem Underway.append (underway : Underway done client number) (others : effect.client ≠ client) :
    Underway (done ++ [effect]) client number := by
  obtain ⟨before, updates, after, rfl, notClient, rfl⟩ := underway
  refine ⟨before, updates, after ++ [effect], by simp, ?_, rfl⟩
  intro present member
  rcases List.mem_append.1 member with among | isLast
  · exact notClient present among
  · exact List.mem_singleton.1 isLast ▸ others

theorem append_singleton_eq_iff {Datum : Type} {data before after : List Datum} {last datum : Datum} :
    data ++ [last] = before ++ datum :: after ↔
      (data = before ∧ last = datum ∧ after = []) ∨
        ∃ rest, data = before ++ datum :: rest ∧ after = rest ++ [last] := by
  constructor
  · intro same
    rcases List.eq_nil_or_concat after with rfl | ⟨rest, final, rfl⟩
    · obtain ⟨rfl, sameLast⟩ := List.append_inj' same rfl
      exact .inl ⟨rfl, List.singleton_inj.1 sameLast, rfl⟩
    · rw [List.concat_eq_append] at same ⊢
      rw [← List.cons_append, ← List.append_assoc] at same
      obtain ⟨rfl, sameLast⟩ := List.append_inj' same rfl
      exact .inr ⟨rest, rfl, by rw [List.singleton_inj.1 sameLast]⟩
  · rintro (⟨rfl, rfl, rfl⟩ | ⟨rest, rfl, rfl⟩)
    · rfl
    · simp

theorem underway_append_singleton (underway : Underway (done ++ [effect]) client number) :
    Underway done client number ∨ ∃ updates, effect = .updated client updates := by
  obtain ⟨before, updates, after, same, notClient, rfl⟩ := underway
  rcases append_singleton_eq_iff.1 same with ⟨_, rfl, _⟩ | ⟨rest, rfl, rfl⟩
  · exact .inr ⟨updates, rfl⟩
  · exact .inl ⟨before, updates, rest, rfl,
      fun other member => notClient other (List.mem_append_left _ member), rfl⟩

theorem acknowledged_append_singleton (acknowledged : Acknowledged (done ++ [effect]) number) :
    Acknowledged done number ∨ ∃ client, effect = .returned client none ∧ Underway done client number := by
  obtain ⟨before, client, after, same, underway⟩ := acknowledged
  rcases append_singleton_eq_iff.1 same with ⟨rfl, rfl, _⟩ | ⟨rest, rfl, rfl⟩
  · exact .inr ⟨client, rfl, underway⟩
  · exact .inl ⟨before, client, rest, rfl, underway⟩

/-! ## Versions of the snapshot -/

/-- The content is the snapshot of the store after so many of the updates. -/
def IsVersion (opened : Store) (updates : List (List (String × Value))) (count : Nat) (content : Bytes) :
    Prop :=
  count ≤ updates.length ∧
    ∃ store, opened.applyAll (updates.take count).flatten = .ok store ∧ content = store.snapshotBytes

theorem IsVersion.append {updates : List (List (String × Value))}
    (isVersion : IsVersion opened updates count content)
    (more : List (List (String × Value))) : IsVersion opened (updates ++ more) count content := by
  obtain ⟨enough, store, updated, rfl⟩ := isVersion
  refine ⟨?_, store, ?_, rfl⟩
  · rw [List.length_append]
    exact Nat.le_add_right_of_le enough
  · rw [List.take_append_of_le_length enough]
    exact updated

/-- The update that a client has made last, if it has not returned, is among the first ones. -/
def Covers (done : List SavingEffect) (client count : Nat) : Prop :=
  ∀ number, Underway done client number → number < count

/-- What there is to a client in a phase: its copy is a version with its own update and not older than the
snapshot; once it is in place, the snapshot has its update. -/
def Promise (opened : Store) (done : List SavingEffect) (kept : Nat) (beside : Except IoError Bytes)
    (client : Nat) : SavingPhase → Prop
  | .copied content =>
    ∃ count, kept ≤ count ∧ Covers done client count ∧ IsVersion opened (applied done) count content
  | .written =>
    ∃ count content, beside = .ok content ∧ kept ≤ count ∧ Covers done client count ∧
      IsVersion opened (applied done) count content
  | .ended none | .released none => Covers done client kept
  | _ => True

/-- What others do takes nothing from a client. -/
theorem Promise.append (promise : Promise opened done kept beside client phase)
    (notUpdated : ∀ updates, effect ≠ .updated client updates) :
    Promise opened (done ++ [effect]) kept beside client phase := by
  have covers {count} (covers : Covers done client count) : Covers (done ++ [effect]) client count := by
    intro number underway
    rcases underway_append_singleton underway with before | ⟨updates, isUpdated⟩
    · exact covers number before
    · exact absurd isUpdated (notUpdated updates)
  rcases phase with _ | _ | content | _ | (_ | cause) | (_ | cause)
  · exact trivial
  · exact trivial
  · obtain ⟨count, fresh, has, isVersion⟩ := promise
    rw [Promise, applied_append]
    exact ⟨count, fresh, covers has, isVersion.append _⟩
  · obtain ⟨count, content, found, fresh, has, isVersion⟩ := promise
    rw [Promise, applied_append]
    exact ⟨count, content, found, fresh, covers has, isVersion.append _⟩
  · exact covers promise
  · exact trivial
  · exact covers promise
  · exact trivial

/-- What is written while a client is outside takes nothing from it. -/
theorem Promise.outside {another : Except IoError Bytes}
    (promise : Promise opened done kept beside client phase)
    (outside : phase.isInside = false) (notLess : kept ≤ higher) :
    Promise opened done higher another client phase := by
  rcases phase with _ | _ | _ | _ | _ | (_ | cause)
  · exact trivial
  · cases outside
  · cases outside
  · cases outside
  · cases outside
  · exact fun number underway => Nat.lt_of_lt_of_le (promise number underway) notLess
  · exact trivial

/-! ## The invariant -/

/-- What is true after every step, where the snapshot has the first `kept` of the updates. -/
structure Sound (opened : Store) (disk : Disk) (path : String) (kept : Nat) (done : List SavingEffect)
    (saving : Saving) : Prop where
  samePath : saving.path = path
  current : opened.applyAll (applied done).flatten = .ok saving.store
  untouched : kept = 0 → saving.disk.read path = disk.read path
  version : kept ≠ 0 →
    ∃ content, saving.disk.read path = .ok content ∧ IsVersion opened (applied done) kept content
  underway : ∀ client phase, saving.phase? client = some phase → ∃ number, Underway done client number
  alone : ∀ client phase, saving.phase? client = some phase → phase.isInside → saving.writer = some client
  promises : ∀ client phase, saving.phase? client = some phase →
    Promise opened done kept (saving.disk.read (Disk.sibling path)) client phase
  acknowledged : ∀ number, Acknowledged done number → number < kept

theorem sound_start (opened : Store) (disk : Disk) (path : String) :
    Sound opened disk path 0 [] (start opened disk path) where
  samePath := rfl
  current := rfl
  untouched _ := rfl
  version := nofun
  underway := nofun
  alone := nofun
  promises := nofun
  acknowledged := by
    rintro number ⟨before, client, after, same, _⟩
    simp at same

theorem Sound.kept_le (sound : Sound opened disk path kept done saving) : kept ≤ (applied done).length := by
  by_cases none : kept = 0
  · exact none ▸ Nat.zero_le _
  · obtain ⟨content, _, enough, _⟩ := sound.version none
    exact enough

/-- While one client is inside, the others are outside. -/
theorem Sound.outside_of_ne {inside : SavingPhase} (sound : Sound opened disk path kept done saving)
    (held : saving.phase? client = some inside) (isInside : inside.isInside) (different : other ≠ client)
    (found : saving.phase? other = some phase) : phase.isInside = false := by
  cases within : phase.isInside with
  | false => rfl
  | true =>
    have writer := sound.alone client inside held isInside
    have otherWriter := sound.alone other phase found within
    exact absurd (Option.some.inj (otherWriter.symm.trans writer)) different

/-- To say something of all clients after one has moved on. -/
theorem forall_setPhase {claim : Nat → SavingPhase → Prop} (moved : claim client phase)
    (others : ∀ other old, other ≠ client → saving.phase? other = some old → claim other old) :
    ∀ other reached, (saving.setPhase client phase).phase? other = some reached → claim other reached := by
  intro other reached found
  rw [phase?_setPhase] at found
  split at found
  · next same =>
    cases found
    exact same ▸ moved
  · next different => exact others other reached different found

/-- A client begins or returns, or is refused, and the disk stays as it is. -/
theorem Sound.append (sound : Sound opened disk path kept done saving) (effect : SavingEffect)
    (samePath : next.path = saving.path) (sameDisk : next.disk = saving.disk)
    (sameWriter : next.writer = saving.writer)
    (current : opened.applyAll (applied (done ++ [effect])).flatten = .ok next.store)
    (phases : ∀ other phase, next.phase? other = some phase →
      (effect.client ≠ other ∧ saving.phase? other = some phase) ∨
        phase = .waiting ∧ ∃ updates, effect = .updated other updates)
    (told : ∀ client, effect = .returned client none → Covers done client kept) :
    Sound opened disk path kept (done ++ [effect]) next where
  samePath := samePath.trans sound.samePath
  current := current
  untouched isNone := by
    rw [sameDisk]
    exact sound.untouched isNone
  version notNone := by
    obtain ⟨content, found, isVersion⟩ := sound.version notNone
    rw [sameDisk, applied_append]
    exact ⟨content, found, isVersion.append _⟩
  underway other phase found := by
    rcases phases other phase found with ⟨different, wasThere⟩ | ⟨_, updates, rfl⟩
    · obtain ⟨number, underway⟩ := sound.underway other phase wasThere
      exact ⟨number, underway.append different⟩
    · exact ⟨_, done, updates, [], rfl, nofun, rfl⟩
  alone other phase found isInside := by
    rw [sameWriter]
    rcases phases other phase found with ⟨_, wasThere⟩ | ⟨rfl, _⟩
    · exact sound.alone other phase wasThere isInside
    · cases isInside
  promises other phase found := by
    rw [sameDisk]
    rcases phases other phase found with ⟨different, wasThere⟩ | ⟨rfl, _⟩
    · refine (sound.promises other phase wasThere).append ?_
      rintro updates rfl
      exact different rfl
    · exact trivial
  acknowledged number isAcknowledged := by
    rcases acknowledged_append_singleton isAcknowledged with before | ⟨client, isReturn, underway⟩
    · exact sound.acknowledged number before
    · exact told client isReturn number underway

section Moves

variable {old : SavingPhase} {after : Disk} {writer : Option Nat}

/-- A client moves on, and the snapshot has so many updates then. -/
theorem Sound.advance (sound : Sound opened disk path kept done saving)
    (held : saving.phase? client = some old) (notLess : kept ≤ higher)
    (untouched : higher = 0 → after.read path = disk.read path)
    (version : higher ≠ 0 →
      ∃ content, after.read path = .ok content ∧ IsVersion opened (applied done) higher content)
    (alone : phase.isInside → writer = some client)
    (othersAlone : ∀ other old, other ≠ client → saving.phase? other = some old → old.isInside →
      writer = some other)
    (promise : Promise opened done higher (after.read (Disk.sibling path)) client phase)
    (otherPromises : ∀ other old, other ≠ client → saving.phase? other = some old →
      Promise opened done higher (after.read (Disk.sibling path)) other old) :
    Sound opened disk path higher done ({ saving with disk := after, writer }.setPhase client phase) where
  samePath := sound.samePath
  current := sound.current
  untouched := untouched
  version := version
  underway := forall_setPhase (sound.underway client old held) fun other old _ => sound.underway other old
  alone := forall_setPhase alone othersAlone
  promises := forall_setPhase promise otherPromises
  acknowledged number isAcknowledged := Nat.lt_of_lt_of_le (sound.acknowledged number isAcknowledged) notLess

/-- A client moves on and leaves the snapshot alone. -/
theorem Sound.move (sound : Sound opened disk path kept done saving)
    (held : saving.phase? client = some old) (sameRead : after.read path = saving.disk.read path)
    (alone : phase.isInside → writer = some client)
    (othersAlone : ∀ other old, other ≠ client → saving.phase? other = some old → old.isInside →
      writer = some other)
    (promise : Promise opened done kept (after.read (Disk.sibling path)) client phase)
    (otherPromises : ∀ other old, other ≠ client → saving.phase? other = some old →
      Promise opened done kept (after.read (Disk.sibling path)) other old) :
    Sound opened disk path kept done ({ saving with disk := after, writer }.setPhase client phase) := by
  apply sound.advance held (Nat.le_refl kept) ?_ ?_ alone othersAlone promise otherPromises
  · rw [sameRead]
    exact sound.untouched
  · rw [sameRead]
    exact sound.version

/-- A client who is inside stays inside and may change what is beside the snapshot. -/
theorem Sound.moveInside (sound : Sound opened disk path kept done saving)
    (held : saving.phase? client = some old) (inside : old.isInside)
    (sameRead : after.read path = saving.disk.read path)
    (promise : Promise opened done kept (after.read (Disk.sibling path)) client phase) :
    Sound opened disk path kept done ({ saving with disk := after }.setPhase client phase) := by
  refine sound.move held sameRead (fun _ => sound.alone client old held inside) ?_ promise ?_
  · exact fun other old _ => sound.alone other old
  · intro other another different found
    exact (sound.promises other another found).outside
      (sound.outside_of_ne held inside different found) (Nat.le_refl kept)

end Moves

theorem Sound.afterUpdate {updates : List (String × Value)}
    (sound : Sound opened disk path kept done saving)
    (stepped : saving.step (.update client updates) = some (next, effects)) :
    Sound opened disk path kept (done ++ effects) next := by
  obtain ⟨isNew, ⟨cause, _, rfl, rfl⟩ | ⟨store, updated, rfl, rfl⟩⟩ := step_update stepped
  · refine sound.append _ rfl rfl rfl ?_ ?_ nofun
    · rw [applied_append, applied_refused, List.append_nil]
      exact sound.current
    · rintro other phase found
      refine .inl ⟨?_, found⟩
      rintro rfl
      cases isNew.symm.trans found
  · refine sound.append _ rfl rfl rfl ?_ ?_ nofun
    · rw [applied_append, applied_updated, List.flatten_append, Store.applyAll_append, sound.current,
        List.flatten_singleton]
      exact updated
    · apply forall_setPhase
      · exact .inr ⟨rfl, updates, rfl⟩
      · exact fun other old different found => .inl ⟨different.symm, found⟩

/-- What is written is beside the snapshot, whole or in part. -/
theorem Sound.afterWrite {failure : Option (IoError × Bytes)}
    (sound : Sound opened disk saving.path kept done saving)
    (stepped : saving.step (.write client failure) = some (next, effects)) :
    Sound opened disk saving.path kept (done ++ effects) next := by
  obtain ⟨content, held, rfl, ⟨cause, rfl⟩ | ⟨part, after, cause, wrote, rfl⟩ | ⟨after, wrote, rfl⟩⟩ :=
    step_write stepped
  · rw [List.append_nil]
    exact sound.moveInside held rfl rfl trivial
  · rw [List.append_nil]
    exact sound.moveInside held rfl (Disk.read_of_write_sibling wrote).1 trivial
  · obtain ⟨count, fresh, covers, isVersion⟩ := sound.promises client _ held
    obtain ⟨sameRead, found⟩ := Disk.read_of_write_sibling wrote
    rw [List.append_nil]
    exact sound.moveInside held rfl sameRead ⟨count, content, found, fresh, covers, isVersion⟩

/-- The copy that is put in place has at least as many updates as the one before. -/
theorem Sound.afterRename {failure : Option IoError} (sound : Sound opened disk saving.path kept done saving)
    (stepped : saving.step (.rename client failure) = some (next, effects)) :
    ∃ higher, kept ≤ higher ∧ Sound opened disk saving.path higher (done ++ effects) next := by
  obtain ⟨held, rfl, ⟨cause, rfl⟩ | ⟨after, _, moved, rfl⟩⟩ := step_rename stepped
  · rw [List.append_nil]
    exact ⟨kept, Nat.le_refl kept, sound.moveInside held rfl rfl trivial⟩
  · obtain ⟨count, content, found, fresh, covers, isVersion⟩ := sound.promises client _ held
    obtain ⟨number, underway⟩ := sound.underway client _ held
    have notNone : count ≠ 0 := Nat.ne_of_gt (Nat.zero_lt_of_lt (covers number underway))
    rw [List.append_nil]
    refine ⟨count, fresh, sound.advance held fresh ?_ ?_ ?_ ?_ covers ?_⟩
    · exact fun isNone => absurd isNone notNone
    · exact fun _ => ⟨content, Disk.read_of_rename_sibling found moved, isVersion⟩
    · exact fun _ => sound.alone client _ held rfl
    · exact fun other old _ => sound.alone other old
    · intro other old different isThere
      exact (sound.promises other old isThere).outside
        (sound.outside_of_ne held rfl different isThere) fresh

theorem Sound.afterRelease (sound : Sound opened disk path kept done saving)
    (stepped : saving.step (.release client) = some (next, effects)) :
    Sound opened disk path kept (done ++ effects) next := by
  obtain ⟨failure, held, rfl, rfl⟩ := step_release stepped
  rw [List.append_nil]
  refine sound.move held rfl nofun ?_ ?_ ?_
  · intro other old different found isInside
    cases isInside.symm.trans (sound.outside_of_ne held rfl different found)
  · cases failure with
    | none =>
      have covers : Covers done client kept := sound.promises client _ held
      exact covers
    | some cause => exact trivial
  · exact fun other old _ => sound.promises other old

theorem Sound.afterFinish (sound : Sound opened disk path kept done saving)
    (stepped : saving.step (.finish client) = some (next, effects)) :
    Sound opened disk path kept (done ++ effects) next := by
  obtain ⟨failure, held, rfl, rfl⟩ := step_finish stepped
  refine sound.append _ rfl rfl rfl ?_ ?_ ?_
  · rw [applied_append, applied_returned, List.append_nil]
    exact sound.current
  · intro other phase found
    have wasThere := (saving.phase?_others client other).symm.trans found
    split at wasThere
    · cases wasThere
    · next different => exact .inl ⟨Ne.symm different, wasThere⟩
  · rintro _ ⟨⟩
    exact sound.promises client _ held

theorem Sound.step (sound : Sound opened disk path kept done saving)
    (stepped : saving.step event = some (next, effects)) :
    ∃ higher, kept ≤ higher ∧ Sound opened disk path higher (done ++ effects) next := by
  obtain rfl := sound.samePath
  cases event with
  | update client updates => exact ⟨kept, Nat.le_refl kept, sound.afterUpdate stepped⟩
  | enter client =>
    obtain ⟨held, free, rfl, rfl⟩ := step_enter stepped
    rw [List.append_nil]
    refine ⟨kept, Nat.le_refl kept, sound.move held rfl (fun _ => rfl) ?_ ?_ ?_⟩
    · intro other old _ found isInside
      cases free.symm.trans (sound.alone other old found isInside)
    · exact trivial
    · exact fun other old _ => sound.promises other old
  | copy client =>
    obtain ⟨held, rfl, rfl⟩ := step_copy stepped
    rw [List.append_nil]
    refine ⟨kept, Nat.le_refl kept, sound.moveInside held rfl rfl ?_⟩
    refine ⟨(applied done).length, sound.kept_le, fun number => Underway.lt, Nat.le_refl _, saving.store, ?_,
      rfl⟩
    rw [List.take_length]
    exact sound.current
  | write client failure => exact ⟨kept, Nat.le_refl kept, sound.afterWrite stepped⟩
  | rename client failure => exact sound.afterRename stepped
  | release client => exact ⟨kept, Nat.le_refl kept, sound.afterRelease stepped⟩
  | finish client => exact ⟨kept, Nat.le_refl kept, sound.afterFinish stepped⟩

/-! ## What stays on the disk -/

/-- Only a copy that is put in place changes the snapshot. -/
theorem read_step (stepped : saving.step event = some (next, effects)) :
    next.disk.read saving.path = saving.disk.read saving.path ∨
      ∃ client, event = .rename client none ∧ next.phase? client = some (.ended none) := by
  cases event with
  | update client updates =>
    obtain ⟨_, ⟨_, _, rfl, _⟩ | ⟨_, _, rfl, _⟩⟩ := step_update stepped
    · exact .inl rfl
    · exact .inl rfl
  | enter client =>
    obtain ⟨_, _, rfl, _⟩ := step_enter stepped
    exact .inl rfl
  | copy client =>
    obtain ⟨_, rfl, _⟩ := step_copy stepped
    exact .inl rfl
  | write client failure =>
    obtain ⟨_, _, _, ⟨_, rfl⟩ | ⟨_, _, _, wrote, rfl⟩ | ⟨_, wrote, rfl⟩⟩ := step_write stepped
    · exact .inl rfl
    · exact .inl (Disk.read_of_write_sibling wrote).1
    · exact .inl (Disk.read_of_write_sibling wrote).1
  | rename client failure =>
    obtain ⟨_, _, ⟨_, rfl⟩ | ⟨_, rfl, _, rfl⟩⟩ := step_rename stepped
    · exact .inl rfl
    · exact .inr ⟨client, rfl, by simp⟩
  | release client =>
    obtain ⟨_, _, rfl, _⟩ := step_release stepped
    exact .inl rfl
  | finish client =>
    obtain ⟨_, _, rfl, _⟩ := step_finish stepped
    exact .inl rfl

theorem IsVersion.ofSnapshot? {updates : List (List (String × Value))} (finite : opened.IsFinite)
    (isVersion : IsVersion opened updates count content) :
    ∃ store, Store.ofSnapshot? content = some store ∧
      opened.applyAll (updates.take count).flatten = .ok store := by
  obtain ⟨_, store, updated, rfl⟩ := isVersion
  exact ⟨store, Store.ofSnapshot?_snapshotBytes (finite.applyAll updated), updated⟩

/-- Clients save their updates in any number of interleaved steps, and everything stops after any of them.
The file is then as it was before, or it holds the store after the first `kept` updates; `kept` never falls;
every acknowledged update is one of these; and a step changes the file only by putting a copy in place. -/
theorem saves_durably (restore : Bool) (disk : Disk) (path : String) (events : List SavingEvent) :
    let opened := (MemoryStorage.start (some ⟨path, true⟩) restore disk).world.store
    ∃ kept : Nat → Nat, Monotone kept ∧ ∀ stop reached effects,
      (start opened disk path).run (events.take stop) = some (reached, effects) →
        (kept stop = 0 → reached.disk.read path = disk.read path) ∧
        (kept stop ≠ 0 → ∃ content store, reached.disk.read path = .ok content ∧
          Store.ofSnapshot? content = some store ∧
          opened.applyAll ((applied effects).take (kept stop)).flatten = .ok store) ∧
        kept stop ≤ (applied effects).length ∧
        (∀ number, Acknowledged effects number → number < kept stop) ∧
        ∀ event next more, reached.step event = some (next, more) →
          next.disk.read path = reached.disk.read path ∨
            ∃ client, event = .rename client none ∧ next.phase? client = some (.ended none) := by
  intro opened
  have finite : opened.IsFinite := MemoryStorage.isFinite_start (some ⟨path, true⟩) restore disk
  obtain ⟨kept, monotone, _, sound⟩ := Run.exists_levels Sound.step (sound_start opened disk path) events
  refine ⟨kept, monotone, fun stop reached effects ran => ?_⟩
  have sound := sound stop effects reached (run_eq_some_iff.1 ran)
  rw [List.nil_append] at sound
  refine ⟨sound.untouched, fun notNone => ?_, sound.kept_le, sound.acknowledged,
    fun event next more stepped => ?_⟩
  · obtain ⟨content, found, isVersion⟩ := sound.version notNone
    obtain ⟨store, decoded, updated⟩ := isVersion.ofSnapshot? finite
    exact ⟨content, store, found, decoded, updated⟩
  · have changes := read_step stepped
    rw [sound.samePath] at changes
    exact changes

/-- Two clients, of whom the second one has returned; its copy holds both updates. -/
theorem saves_durably_by_two :
    let load : Binary64 := ⟨0x3ff8000000000000⟩
    let updates : List (List (String × Value)) :=
      [[("Load", .gauge load)], [("PollCount", .counter ⟨5, by decide, by decide⟩)]]
    let events : List SavingEvent :=
      [.update 1 updates[0], .update 2 updates[1], .enter 2, .copy 2, .write 2 none, .rename 2 none,
        .release 2, .finish 2, .enter 1]
    ∃ reached effects content store, (start Store.empty Disk.empty "metrics.json").run events =
        some (reached, effects) ∧
      reached.disk.read "metrics.json" = .ok content ∧ Store.ofSnapshot? content = some store ∧
      store.gauges.get? "Load" = some load ∧ (store.total "PollCount").toInt = 5 := by
  intro load updates events
  obtain ⟨⟨reached, effects⟩, ran⟩ := Option.isSome_iff_exists.1
    (show ((start Store.empty Disk.empty "metrics.json").run events).isSome by decide +kernel)
  have seen : ((start Store.empty Disk.empty "metrics.json").run events).map Prod.snd =
      some [.updated 1 updates[0], .updated 2 updates[1], .returned 2 none] := by
    decide +kernel
  rw [ran] at seen
  obtain rfl := Option.some.inj seen
  obtain ⟨kept, _, durable⟩ := saves_durably false Disk.empty "metrics.json" events
  obtain ⟨_, version, most, told, _⟩ := durable events.length reached _ (by rw [List.take_length]; exact ran)
  have both : 1 < kept events.length :=
    told 1 ⟨_, 2, [], rfl, [.updated 1 updates[0]], updates[1], [], rfl,
      fun _ member => absurd member List.not_mem_nil, rfl⟩
  have all : kept events.length = 2 := Nat.le_antisymm most both
  obtain ⟨content, store, found, decoded, updated⟩ := version (by omega)
  rw [all] at updated
  refine ⟨reached, _, content, store, ran, found, decoded, ?_, ?_⟩
  · rw [Store.get?_gauges_applyAll "Load" updated]
    decide
  · rw [Store.total_applyAll "PollCount" updated]
    decide

end Saving

end Telemetry
