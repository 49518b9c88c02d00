import Telemetry.Proofs.Disk
import Telemetry.Proofs.Store.Saving

/-!
# Clients that go on

A client that goes on in the phase that it is in comes nearer to its end with every step. It may only have to
wait for the one who is inside. Where a file can take the place of the snapshot, its copy of the store becomes
the snapshot.
-/

namespace Telemetry

/-- How many steps are left in a phase. -/
def SavingPhase.remaining : SavingPhase → Nat
  | waiting => 6
  | admitted => 5
  | copied _ => 4
  | written => 3
  | ended _ => 2
  | released _ => 1

/-- In a phase, so much of the content has come to the disk that it will be the snapshot. -/
def SavingPhase.LeadsTo (content : Bytes) (disk : Disk) (path : String) : SavingPhase → Prop
  | waiting | admitted => True
  | copied copy => copy = content
  | written => disk.read (Disk.sibling path) = .ok content
  | ended failure | released failure => failure = none ∧ disk.read path = .ok content

namespace Saving

variable {saving next : Saving} {client : Nat} {phase : SavingPhase} {effects : List SavingEffect}
  {clients later : List (Nat × SavingPhase)} {writer nextWriter : Option Nat}

/-! ## The one who may write -/

/-- The one who may write is the one who is inside. -/
def Exclusive (writer : Option Nat) (clients : List (Nat × SavingPhase)) : Prop :=
  ∀ client, writer = some client ↔
    ∃ phase, clients.lookup client = some phase ∧ phase.isInside = true

/-- To say who may write after one client has changed. -/
theorem Exclusive.change (exclusive : Exclusive writer clients) (client : Nat)
    (sameWriter : ∀ other, other ≠ client → (nextWriter = some other ↔ writer = some other))
    (sameLookup : ∀ other, other ≠ client → later.lookup other = clients.lookup other)
    (itself : nextWriter = some client ↔
      ∃ phase, later.lookup client = some phase ∧ phase.isInside = true) :
    Exclusive nextWriter later := by
  intro other
  by_cases same : other = client
  · exact same ▸ itself
  · rw [sameWriter other same, sameLookup other same]
    exact exclusive other

theorem Exclusive.writer_eq (exclusive : Exclusive writer clients) (found : clients.lookup client = some phase) :
    writer = some client ↔ phase.isInside = true := by
  rw [exclusive client, found]
  constructor
  · rintro ⟨_, ⟨⟩, inside⟩
    exact inside
  · exact fun inside => ⟨phase, rfl, inside⟩

/-! ## Going on -/

theorem phase_eq_of_setPhase {reached : SavingPhase}
    (found : (saving.setPhase client reached).phase? client = some phase) : reached = phase := by
  rw [phase?_setPhase, if_pos rfl] at found
  exact Option.some.inj found

/-- What a client in a phase does when it goes on. -/
inductive GoesOn (saving : Saving) (client : Nat) : SavingPhase → Saving → Prop
  | enters (free : saving.writer = none) :
    GoesOn saving client .waiting ({ saving with writer := some client }.setPhase client .admitted)
  | copies : GoesOn saving client .admitted (saving.setPhase client (.copied saving.store.snapshotBytes))
  | failsToWrite {content : Bytes} {cause : IoError}
    (failed : saving.disk.write (Disk.sibling saving.path) content = .error cause) :
    GoesOn saving client (.copied content) (saving.setPhase client (.ended (some cause)))
  | writes {content : Bytes} {disk : Disk}
    (wrote : saving.disk.write (Disk.sibling saving.path) content = .ok disk) :
    GoesOn saving client (.copied content) ({ saving with disk }.setPhase client .written)
  | failsToRename {cause : IoError}
    (failed : saving.disk.rename (Disk.sibling saving.path) saving.path = .error cause) :
    GoesOn saving client .written (saving.setPhase client (.ended (some cause)))
  | renames {disk : Disk}
    (moved : saving.disk.rename (Disk.sibling saving.path) saving.path = .ok disk) :
    GoesOn saving client .written ({ saving with disk }.setPhase client (.ended none))
  | releases (failure : Option IoError) :
    GoesOn saving client (.ended failure)
      ({ saving with writer := none }.setPhase client (.released failure))
  | finishes (failure : Option IoError) :
    GoesOn saving client (.released failure) { saving with clients := saving.others client }

theorem step_write_eq {content : Bytes} (found : saving.phase? client = some (.copied content)) :
    saving.step (.write client none) = some (saving.writeBeside client content none, []) := by
  simp only [step, found]

theorem step_rename_eq (found : saving.phase? client = some .written) :
    saving.step (.rename client none) = some (saving.putInPlace client, []) := by
  simp only [step, found]

theorem goesOn_of_step (found : saving.phase? client = some phase)
    (stepped : saving.step (phase.next client) = some (next, effects)) :
    saving.GoesOn client phase next := by
  cases phase with
  | waiting =>
    obtain ⟨_, free, rfl, _⟩ := step_enter stepped
    exact .enters free
  | admitted =>
    obtain ⟨_, rfl, _⟩ := step_copy stepped
    exact .copies
  | copied content =>
    cases (step_write_eq found).symm.trans stepped
    unfold writeBeside
    split
    · next failed => exact .failsToWrite failed
    · next wrote => exact .writes wrote
  | written =>
    cases (step_rename_eq found).symm.trans stepped
    unfold putInPlace
    split
    · next failed => exact .failsToRename failed
    · next moved => exact .renames moved
  | ended failure =>
    obtain ⟨_, isEnded, rfl, _⟩ := step_release stepped
    cases found.symm.trans isEnded
    exact .releases failure
  | released failure =>
    obtain ⟨_, isReleased, rfl, _⟩ := step_finish stepped
    cases found.symm.trans isReleased
    exact .finishes failure

/-- A client can go on, unless it has to wait for the one who may write. -/
theorem exists_step_next (found : saving.phase? client = some phase)
    (free : phase = .waiting → saving.writer = none) :
    ∃ next effects, saving.step (phase.next client) = some (next, effects) := by
  cases phase with
  | waiting => exact ⟨_, _, if_pos ⟨found, free rfl⟩⟩
  | admitted => exact ⟨_, _, if_pos found⟩
  | copied content => exact ⟨_, _, step_write_eq found⟩
  | written => exact ⟨_, _, step_rename_eq found⟩
  | ended failure =>
    rw [SavingPhase.next, step, found]
    exact ⟨_, _, rfl⟩
  | released failure =>
    rw [SavingPhase.next, step, found]
    exact ⟨_, _, rfl⟩

namespace GoesOn

theorem store_eq (goesOn : saving.GoesOn client phase next) :
    next.store = saving.store ∧ next.path = saving.path := by
  cases goesOn <;> exact ⟨rfl, rfl⟩

/-- The other clients are where they were, and the client itself is nearer to its end. -/
theorem clients_eq (goesOn : saving.GoesOn client phase next) :
    (next.clients = saving.others client ∧ ∃ failure, phase = .released failure) ∨
      ∃ after, next.clients = (client, after) :: saving.others client ∧
        after.remaining < phase.remaining ∧ ∀ failure, phase ≠ .released failure := by
  cases goesOn with
  | finishes failure => exact .inl ⟨rfl, failure, rfl⟩
  | _ => exact .inr ⟨_, rfl, Nat.lt_of_sub_eq_succ rfl, nofun⟩

theorem lookup_of_ne (goesOn : saving.GoesOn client phase next) {other : Nat} (different : other ≠ client) :
    next.clients.lookup other = saving.clients.lookup other := by
  have sameOthers : (saving.others client).lookup other = saving.clients.lookup other := by
    rw [phase?_others, if_neg different]
    rfl
  rcases goesOn.clients_eq with ⟨same, _⟩ | ⟨after, same, _⟩
  · rw [same, sameOthers]
  · rw [same, lookup_cons_ite, if_neg different, sameOthers]

theorem exclusive (goesOn : saving.GoesOn client phase next) (found : saving.phase? client = some phase)
    (exclusive : Exclusive saving.writer saving.clients) : Exclusive next.writer next.clients := by
  have writes := exclusive.writer_eq found
  have moves {after : SavingPhase} {state : Saving} (sameOthers : state.others client = saving.others client)
      (sameWriter : ∀ other, other ≠ client → (state.writer = some other ↔ saving.writer = some other))
      (itself : state.writer = some client ↔ after.isInside = true) :
      Exclusive (state.setPhase client after).writer (state.setPhase client after).clients := by
    refine exclusive.change client sameWriter (fun other different => ?_) ?_
    · rw [setPhase, sameOthers, lookup_cons_ite, if_neg different, phase?_others, if_neg different]
      rfl
    · rw [writer_setPhase, itself, setPhase, List.lookup_cons_self]
      simp
  cases goesOn with
  | enters free =>
    refine moves rfl (fun other different => ?_) (by simp [SavingPhase.isInside])
    simp [free, different.symm]
  | copies => exact moves rfl (fun _ _ => Iff.rfl) writes
  | failsToWrite failed => exact moves rfl (fun _ _ => Iff.rfl) writes
  | writes wrote => exact moves rfl (fun _ _ => Iff.rfl) writes
  | failsToRename failed => exact moves rfl (fun _ _ => Iff.rfl) writes
  | renames moved => exact moves rfl (fun _ _ => Iff.rfl) writes
  | releases failure =>
    refine moves rfl (fun other different => ?_) (by simp [SavingPhase.isInside])
    rw [writes.2 rfl]
    simp [different.symm]
  | finishes failure =>
    refine exclusive.change client (fun _ _ => Iff.rfl) (fun other different => ?_) ?_
    · rw [phase?_others, if_neg different]
      rfl
    · rw [phase?_others, if_pos rfl, writes]
      simp [SavingPhase.isInside]

theorem takes (goesOn : saving.GoesOn client phase next) (takes : saving.disk.Takes saving.path) :
    next.disk.Takes saving.path := by
  cases goesOn with
  | writes wrote => exact takes.of_write (.inr rfl) wrote
  | renames moved => exact takes.of_rename_sibling moved
  | _ => exact takes

/-- Where a file can take the place of the snapshot, nothing fails on the way there. -/
theorem leadsTo (goesOn : saving.GoesOn client phase next) (takes : saving.disk.Takes saving.path)
    (leads : phase.LeadsTo saving.store.snapshotBytes saving.disk saving.path) {after : SavingPhase}
    (found : next.phase? client = some after) :
    after.LeadsTo saving.store.snapshotBytes next.disk saving.path := by
  cases goesOn with
  | enters free => exact phase_eq_of_setPhase found ▸ trivial
  | copies => exact phase_eq_of_setPhase found ▸ rfl
  | @failsToWrite content cause failed =>
    obtain ⟨written, wrote, _⟩ := takes.write_sibling content
    cases failed.symm.trans wrote
  | @writes content disk wrote =>
    obtain ⟨written, same, _, holds⟩ := takes.write_sibling content
    cases wrote.symm.trans same
    cases phase_eq_of_setPhase found
    cases leads
    exact holds
  | failsToRename failed =>
    obtain ⟨renamed, moved, _⟩ := takes.rename_sibling leads
    cases failed.symm.trans moved
  | renames moved =>
    obtain ⟨renamed, same, _, holds⟩ := takes.rename_sibling leads
    cases moved.symm.trans same
    cases phase_eq_of_setPhase found
    exact ⟨rfl, holds⟩
  | releases failure =>
    cases phase_eq_of_setPhase found
    exact leads
  | finishes failure =>
    rw [phase?, phase?_others, if_pos rfl] at found
    cases found

end GoesOn

/-! ## The work that is left -/

/-- How many steps are left for all clients together. -/
def work : List (Nat × SavingPhase) → Nat
  | [] => 0
  | (_, phase) :: clients => phase.remaining + work clients

theorem work_filter_le (keeps : Nat × SavingPhase → Bool) (clients : List (Nat × SavingPhase)) :
    work (clients.filter keeps) ≤ work clients := by
  induction clients with
  | nil => exact Nat.le_refl _
  | cons entry clients inductionHypothesis =>
    rw [List.filter_cons]
    split
    · exact Nat.add_le_add_left inductionHypothesis _
    · exact Nat.le_add_left_of_le inductionHypothesis

theorem work_others (found : saving.phase? client = some phase) :
    work (saving.others client) + phase.remaining ≤ work saving.clients := by
  unfold phase? at found
  unfold others
  generalize saving.clients = clients at found ⊢
  induction clients with
  | nil => cases found
  | cons entry clients inductionHypothesis =>
    obtain ⟨number, reached⟩ := entry
    rw [lookup_cons_ite] at found
    by_cases same : client = number
    · rw [if_pos same] at found
      cases found
      rw [List.filter_cons_of_neg (by simp [same]), work, Nat.add_comm]
      exact Nat.add_le_add_left (work_filter_le _ clients) _
    · rw [if_neg same] at found
      rw [List.filter_cons_of_pos (by simp [Ne.symm same]), work, work, Nat.add_assoc]
      exact Nat.add_le_add_left (inductionHypothesis found) _

theorem GoesOn.work_lt (goesOn : saving.GoesOn client phase next) (found : saving.phase? client = some phase) :
    work next.clients < work saving.clients := by
  have left := work_others found
  rcases goesOn.clients_eq with ⟨same, failure, rfl⟩ | ⟨after, same, nearer, _⟩
  · rw [same]
    simp only [SavingPhase.remaining] at left
    omega
  · rw [same]
    rw [work]
    omega

/-- As long as there are clients, one of them can go on. -/
theorem exists_goesOn (exclusive : Exclusive saving.writer saving.clients) (busy : saving.clients ≠ []) :
    ∃ client phase next effects, saving.phase? client = some phase ∧
      saving.step (phase.next client) = some (next, effects) := by
  cases writes : saving.writer with
  | some client =>
    obtain ⟨phase, found, inside⟩ := (exclusive client).1 writes
    obtain ⟨next, effects, stepped⟩ := exists_step_next found (by
      rintro rfl
      cases inside)
    exact ⟨client, phase, next, effects, found, stepped⟩
  | none =>
    obtain ⟨⟨client, phase⟩, rest, isFirst⟩ := List.exists_cons_of_ne_nil busy
    have found : saving.phase? client = some phase := by
      rw [phase?, isFirst, List.lookup_cons_self]
    obtain ⟨next, effects, stepped⟩ := exists_step_next found fun _ => writes
    exact ⟨client, phase, next, effects, found, stepped⟩

end Saving

end Telemetry
