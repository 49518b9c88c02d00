import Telemetry.Store.Memory

/-!
# Snapshots by many clients

Any number of clients update one store, and each update writes the snapshot before it returns. An update
takes effect in one step. After that the client waits until it alone may write; then it copies the store,
writes the copy beside the snapshot, and gives the copy the snapshot's path; then it lets the next client
write; and then it returns.

`Saving.step` makes one client go one step. A run is any list of steps, so every interleaving is one, and
what the disk of a state holds is what is found when everything stops there.
-/

namespace Telemetry

/-- How far a client has come that has updated the store. -/
inductive SavingPhase
  /-- It waits until it may write. -/
  | waiting
  /-- It alone may write. -/
  | admitted
  /-- It has a copy of the store. -/
  | copied (content : Bytes)
  /-- The copy is beside the snapshot. -/
  | written
  /-- The copy is the snapshot, or something has failed. -/
  | ended (failure : Option IoError)
  /-- The next client may write. -/
  | released (failure : Option IoError)
  deriving DecidableEq, Repr

/-- A store whose updates write the snapshot, and the clients in the middle of an update. -/
structure Saving where
  store : Store
  disk : Disk
  /-- The path of the snapshot. -/
  path : String
  /-- The client who may write. -/
  writer : Option Nat
  clients : List (Nat × SavingPhase)

/-- One thing that a client does. -/
inductive SavingEvent
  /-- It updates the store, all at once or not at all. -/
  | update (client : Nat) (updates : List (String × Value))
  | enter (client : Nat)
  | copy (client : Nat)
  /-- It writes the copy. When that fails, any part of a file may be left beside the snapshot. -/
  | write (client : Nat) (failure : Option (IoError × Bytes))
  /-- It gives the copy the path of the snapshot. -/
  | rename (client : Nat) (failure : Option IoError)
  | release (client : Nat)
  | finish (client : Nat)
  deriving DecidableEq, Repr

/-- What a step does that a client can see. -/
inductive SavingEffect
  | refused (client : Nat) (cause : ValidationError)
  | updated (client : Nat) (updates : List (String × Value))
  /-- The update of a client returns, after its snapshot has been written or has failed to be. -/
  | returned (client : Nat) (failure : Option IoError)
  deriving DecidableEq, Repr

namespace Saving

/-- A store with nobody in the middle of an update. -/
def start (store : Store) (disk : Disk) (path : String) : Saving :=
  ⟨store, disk, path, none, []⟩

/-- How far a client has come. -/
def phase? (saving : Saving) (client : Nat) : Option SavingPhase :=
  saving.clients.lookup client

/-- The clients without one of them. -/
def others (saving : Saving) (client : Nat) : List (Nat × SavingPhase) :=
  saving.clients.filter fun (other, _) => other != client

/-- The state with a client in another phase. -/
def setPhase (saving : Saving) (client : Nat) (phase : SavingPhase) : Saving :=
  { saving with clients := (client, phase) :: saving.others client }

/-- The state after a client has tried to write something beside the snapshot. -/
def writeBeside (saving : Saving) (client : Nat) (content : Bytes) (failure : Option IoError) : Saving :=
  match saving.disk.write (Disk.sibling saving.path) content with
  | .error cause => saving.setPhase client (.ended (some cause))
  | .ok disk =>
    { saving with disk }.setPhase client (failure.elim .written fun cause => .ended (some cause))

/-- The state after a client has tried to give its copy the path of the snapshot. -/
def putInPlace (saving : Saving) (client : Nat) : Saving :=
  match saving.disk.rename (Disk.sibling saving.path) saving.path with
  | .error cause => saving.setPhase client (.ended (some cause))
  | .ok disk => { saving with disk }.setPhase client (.ended none)

/-- One step; nothing if it cannot happen. -/
def step (saving : Saving) : SavingEvent → Option (Saving × List SavingEffect)
  | .update client updates =>
    match saving.phase? client, saving.store.applyAll updates with
    | some _, _ => none
    | none, .error cause => some (saving, [.refused client cause])
    | none, .ok store =>
      some ({ saving with store }.setPhase client .waiting, [.updated client updates])
  | .enter client =>
    if saving.phase? client = some .waiting ∧ saving.writer = none then
      some ({ saving with writer := some client }.setPhase client .admitted, [])
    else
      none
  | .copy client =>
    if saving.phase? client = some .admitted then
      some (saving.setPhase client (.copied saving.store.snapshotBytes), [])
    else
      none
  | .write client failure =>
    match saving.phase? client, failure with
    | some (.copied content), none => some (saving.writeBeside client content none, [])
    | some (.copied _), some (cause, part) => some (saving.writeBeside client part (some cause), [])
    | _, _ => none
  | .rename client failure =>
    match saving.phase? client, failure with
    | some .written, none => some (saving.putInPlace client, [])
    | some .written, some cause => some (saving.setPhase client (.ended (some cause)), [])
    | _, _ => none
  | .release client =>
    match saving.phase? client with
    | some (.ended failure) =>
      some ({ saving with writer := none }.setPhase client (.released failure), [])
    | _ => none
  | .finish client =>
    match saving.phase? client with
    | some (.released failure) =>
      some ({ saving with clients := saving.others client }, [.returned client failure])
    | _ => none

/-- Steps one after another, and all that they did, in order. -/
def run (saving : Saving) : List SavingEvent → Option (Saving × List SavingEffect)
  | [] => some (saving, [])
  | event :: events =>
    (saving.step event).bind fun (next, effects) =>
      (run next events).map fun (final, later) => (final, effects ++ later)

end Saving

/-- What a client does in a phase, unless something is made to fail. -/
def SavingPhase.next (client : Nat) : SavingPhase → SavingEvent
  | waiting => .enter client
  | admitted => .copy client
  | copied _ => .write client none
  | written => .rename client none
  | ended _ => .release client
  | released _ => .finish client

namespace Saving

/-! ## A client alone -/

/-- The steps of a client for whom nothing fails. -/
def stepsOf (client : Nat) (updates : List (String × Value)) : List SavingEvent :=
  [.update client updates, .enter client, .copy client, .write client none, .rename client none,
    .release client, .finish client]

/-- A client alone leaves the updated store and its snapshot. -/
theorem run_stepsOf {store updated : Store} {disk replaced : Disk} {path : String} (client : Nat)
    {updates : List (String × Value)} (accepted : store.applyAll updates = .ok updated)
    (saved : disk.replace path updated.snapshotBytes = (.ok (), replaced)) :
    (start store disk path).run (stepsOf client updates) =
      some (start updated replaced path, [.updated client updates, .returned client none]) := by
  obtain ⟨written, write_eq, rename_eq⟩ : ∃ written,
      disk.write (Disk.sibling path) updated.snapshotBytes = .ok written ∧
        written.rename (Disk.sibling path) path = .ok replaced := by
    unfold Disk.replace at saved
    cases write_eq : disk.write (Disk.sibling path) updated.snapshotBytes with
    | error cause => simp [write_eq] at saved
    | ok written =>
      cases rename_eq : written.rename (Disk.sibling path) path with
      | error cause => simp [write_eq, rename_eq] at saved
      | ok renamed =>
        simp only [write_eq, rename_eq, Prod.mk.injEq, true_and] at saved
        exact ⟨written, rfl, saved ▸ rename_eq⟩
  simp only [start, stepsOf, run, step, phase?, List.lookup_nil, accepted, setPhase, others, List.filter_nil,
    writeBeside, Option.elim_none, putInPlace, Option.map_some, List.append_nil, Option.bind_some,
    List.lookup_cons_self, and_self, ↓reduceIte, bne_self_eq_false, Bool.false_eq_true, not_false_eq_true,
    List.filter_cons_of_neg, List.nil_append, List.cons_append, write_eq, rename_eq]

end Saving

end Telemetry
