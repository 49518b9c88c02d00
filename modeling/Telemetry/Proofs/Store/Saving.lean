import Telemetry.Proofs.Traversal
import Telemetry.Store.Saving

/-!
# Steps of clients that save

What a client does depends on its own phase, and for all steps but the first nothing else decides whether
it may go on; the lemmas here say for each kind of step what it finds and what it leaves. A client who may
write is inside; nobody else comes in before it lets the next one write.
-/

namespace Telemetry

/-- Whether a client in a phase is the one who may write. -/
def SavingPhase.isInside : SavingPhase → Bool
  | admitted | copied _ | written | ended _ => true
  | waiting | released _ => false

namespace Saving

variable {saving next : Saving} {client other : Nat} {effects : List SavingEffect}

/-! ## Phases -/

theorem phase?_others (saving : Saving) (client other : Nat) :
    (saving.others client).lookup other = if other = client then none else saving.phase? other :=
  lookup_filter_ne client saving.clients

@[simp]
theorem phase?_setPhase (saving : Saving) (client other : Nat) (phase : SavingPhase) :
    (saving.setPhase client phase).phase? other =
      if other = client then some phase else saving.phase? other := by
  rw [phase?, setPhase, lookup_cons_ite]
  by_cases same : other = client
  · rw [if_pos same, if_pos same]
  · rw [if_neg same, if_neg same, phase?_others, if_neg same]

@[simp]
theorem store_setPhase (phase : SavingPhase) : (saving.setPhase client phase).store = saving.store := rfl

@[simp]
theorem disk_setPhase (phase : SavingPhase) : (saving.setPhase client phase).disk = saving.disk := rfl

@[simp]
theorem path_setPhase (phase : SavingPhase) : (saving.setPhase client phase).path = saving.path := rfl

@[simp]
theorem writer_setPhase (phase : SavingPhase) : (saving.setPhase client phase).writer = saving.writer := rfl

/-! ## What the steps are -/

theorem step_update {updates : List (String × Value)}
    (stepped : saving.step (.update client updates) = some (next, effects)) :
    saving.phase? client = none ∧
      ((∃ cause, saving.store.applyAll updates = .error cause ∧ next = saving ∧
          effects = [.refused client cause]) ∨
        ∃ store, saving.store.applyAll updates = .ok store ∧
          next = { saving with store }.setPhase client .waiting ∧ effects = [.updated client updates]) := by
  unfold step at stepped
  dsimp only at stepped
  split at stepped
  · cases stepped
  · next cause isNew refused =>
    cases stepped
    exact ⟨isNew, .inl ⟨cause, refused, rfl, rfl⟩⟩
  · next store isNew updated =>
    cases stepped
    exact ⟨isNew, .inr ⟨store, updated, rfl, rfl⟩⟩

theorem step_enter (stepped : saving.step (.enter client) = some (next, effects)) :
    saving.phase? client = some .waiting ∧ saving.writer = none ∧
      next = { saving with writer := some client }.setPhase client .admitted ∧ effects = [] := by
  unfold step at stepped
  dsimp only at stepped
  split at stepped
  · next free =>
    cases stepped
    exact ⟨free.1, free.2, rfl, rfl⟩
  · cases stepped

theorem step_copy (stepped : saving.step (.copy client) = some (next, effects)) :
    saving.phase? client = some .admitted ∧
      next = saving.setPhase client (.copied saving.store.snapshotBytes) ∧ effects = [] := by
  unfold step at stepped
  dsimp only at stepped
  split at stepped
  · next inside =>
    cases stepped
    exact ⟨inside, rfl, rfl⟩
  · cases stepped

/-- What a client writes goes beside the snapshot. -/
theorem writeBeside_cases (saving : Saving) (client : Nat) (content : Bytes) (failure : Option IoError) :
    (∃ cause, saving.writeBeside client content failure = saving.setPhase client (.ended (some cause))) ∨
      ∃ disk, saving.disk.write (Disk.sibling saving.path) content = .ok disk ∧
        saving.writeBeside client content failure =
          { saving with disk }.setPhase client (failure.elim .written fun cause => .ended (some cause)) := by
  unfold writeBeside
  split
  · next cause _ => exact .inl ⟨cause, rfl⟩
  · next disk wrote => exact .inr ⟨disk, wrote, rfl⟩

/-- A client who writes has its whole copy beside the snapshot, or it has failed. -/
theorem step_write {failure : Option (IoError × Bytes)}
    (stepped : saving.step (.write client failure) = some (next, effects)) :
    ∃ content, saving.phase? client = some (.copied content) ∧ effects = [] ∧
      ((∃ cause, next = saving.setPhase client (.ended (some cause))) ∨
        (∃ part disk cause, saving.disk.write (Disk.sibling saving.path) part = .ok disk ∧
          next = { saving with disk }.setPhase client (.ended (some cause))) ∨
        ∃ disk, saving.disk.write (Disk.sibling saving.path) content = .ok disk ∧
          next = { saving with disk }.setPhase client .written) := by
  unfold step at stepped
  dsimp only at stepped
  split at stepped
  · next content inside =>
    cases stepped
    refine ⟨content, inside, rfl, ?_⟩
    rcases saving.writeBeside_cases client content none with failed | ⟨disk, wrote, same⟩
    · exact .inl failed
    · exact .inr (.inr ⟨disk, wrote, same⟩)
  · next content cause part inside =>
    cases stepped
    refine ⟨content, inside, rfl, ?_⟩
    rcases saving.writeBeside_cases client part (some cause) with failed | ⟨disk, wrote, same⟩
    · exact .inl failed
    · exact .inr (.inl ⟨part, disk, cause, wrote, same⟩)
  · cases stepped

/-- A client who renames has its copy in place of the snapshot, or it has failed. -/
theorem step_rename {failure : Option IoError}
    (stepped : saving.step (.rename client failure) = some (next, effects)) :
    saving.phase? client = some .written ∧ effects = [] ∧
      ((∃ cause, next = saving.setPhase client (.ended (some cause))) ∨
        ∃ disk, failure = none ∧ saving.disk.rename (Disk.sibling saving.path) saving.path = .ok disk ∧
          next = { saving with disk }.setPhase client (.ended none)) := by
  unfold step at stepped
  dsimp only at stepped
  split at stepped
  · next inside =>
    cases stepped
    refine ⟨inside, rfl, ?_⟩
    unfold putInPlace
    split
    · next cause _ => exact .inl ⟨cause, rfl⟩
    · next disk moved => exact .inr ⟨disk, rfl, moved, rfl⟩
  · next cause inside =>
    cases stepped
    exact ⟨inside, rfl, .inl ⟨cause, rfl⟩⟩
  · cases stepped

theorem step_release (stepped : saving.step (.release client) = some (next, effects)) :
    ∃ failure, saving.phase? client = some (.ended failure) ∧
      next = { saving with writer := none }.setPhase client (.released failure) ∧ effects = [] := by
  unfold step at stepped
  dsimp only at stepped
  split at stepped
  · next failure inside =>
    cases stepped
    exact ⟨failure, inside, rfl, rfl⟩
  · cases stepped

theorem step_finish (stepped : saving.step (.finish client) = some (next, effects)) :
    ∃ failure, saving.phase? client = some (.released failure) ∧
      next = { saving with clients := saving.others client } ∧ effects = [.returned client failure] := by
  unfold step at stepped
  dsimp only at stepped
  split at stepped
  · next failure outside =>
    cases stepped
    exact ⟨failure, outside, rfl, rfl⟩
  · cases stepped

end Saving

end Telemetry
