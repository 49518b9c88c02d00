import Telemetry.Agent.Queue

/-!
# Calls of the queue

Any number of holders call the queue at the same time. `Traffic.step` makes one of them go one step: begin
a call, get on with it as far as it can, or give it up. A run is any list of such steps, so every
interleaving is one, and what it did to items can be read off its answers.
-/

namespace Telemetry

universe u

/-- A call of the queue. -/
inductive QueueCall (Item : Type u)
  | offer (item : Item)
  | take (waiting : Taking)
  deriving DecidableEq, Repr

/-- Whether a call can begin like this; nobody begins with the lock. -/
def QueueCall.isFresh {Item : Type u} : QueueCall Item → Bool
  | take .item => false
  | _ => true

/-- What a call of the queue comes to. -/
inductive QueueAnswer (Item : Type u)
  | offered (item : Item) (outcome : Offered)
  | taken (item : Option Item)
  deriving DecidableEq, Repr

/-- A queue, the calls of it that go on, by holder, and whether they are cancelled. -/
structure Traffic (Item : Type u) where
  queue : Queue Item
  cancelled : Bool
  calls : List (Nat × QueueCall Item)
  deriving DecidableEq, Repr

/-- One thing that happens around the queue. -/
inductive TrafficEvent (Item : Type u)
  /-- A holder begins a call. -/
  | call (holder : Nat) (call : QueueCall Item)
  /-- A holder's call gets on. -/
  | poll (holder : Nat)
  /-- A holder gives its call up. -/
  | drop (holder : Nat)
  | cancel
  | endOffers
  | endTakes
  deriving DecidableEq, Repr

namespace Traffic

variable {Item : Type u}

/-- A queue that nobody calls. -/
def on (queue : Queue Item) : Traffic Item :=
  ⟨queue, false, []⟩

/-- The call of a holder that goes on. -/
def callOf? (traffic : Traffic Item) (holder : Nat) : Option (QueueCall Item) :=
  traffic.calls.lookup holder

/-- The calls of the other holders. -/
def callsBut (traffic : Traffic Item) (holder : Nat) : List (Nat × QueueCall Item) :=
  traffic.calls.filter fun (other, _) => other != holder

/-- A call gets on: it ends with an answer, or it goes on with the lock, or it has to wait. -/
def poll? (traffic : Traffic Item) (holder : Nat) :
    QueueCall Item → Option (Traffic Item × Option (QueueAnswer Item))
  | .offer item =>
    (traffic.queue.offer? traffic.cancelled item).map fun (outcome, queue) =>
      ({ traffic with queue, calls := traffic.callsBut holder }, some (.offered item outcome))
  | .take waiting =>
    (traffic.queue.take? traffic.cancelled holder waiting).map fun (progress, queue) =>
      match progress with
      | .locked =>
        ({ traffic with queue, calls := (holder, .take .item) :: traffic.callsBut holder }, none)
      | .ended item => ({ traffic with queue, calls := traffic.callsBut holder }, some (.taken item))

/-- One step; nothing if it cannot happen. The answer is that of the call that it ends. -/
def step (traffic : Traffic Item) :
    TrafficEvent Item → Option (Traffic Item × Option (QueueAnswer Item))
  | .call holder call =>
    if (traffic.callOf? holder).isNone && call.isFresh then
      some ({ traffic with calls := (holder, call) :: traffic.calls }, none)
    else
      none
  | .poll holder => (traffic.callOf? holder).bind (traffic.poll? holder)
  | .drop holder =>
    (traffic.callOf? holder).map fun call =>
      let queue :=
        match call with
        | .offer _ => traffic.queue
        | .take waiting => traffic.queue.giveUp waiting
      ({ traffic with queue, calls := traffic.callsBut holder }, none)
  | .cancel => some ({ traffic with cancelled := true }, none)
  | .endOffers => some ({ traffic with queue := { traffic.queue with offersEnded := true } }, none)
  | .endTakes => some ({ traffic with queue := { traffic.queue with takesEnded := true } }, none)

/-- Steps one after another, and the answers of the calls that they end. -/
def run (traffic : Traffic Item) :
    List (TrafficEvent Item) → Option (Traffic Item × List (QueueAnswer Item))
  | [] => some (traffic, [])
  | event :: events =>
    (traffic.step event).bind fun (next, answer) =>
      (run next events).map fun (final, answers) => (final, answer.toList ++ answers)

/-- The traffic without the call of a holder. -/
def withoutCall (traffic : Traffic Item) (holder : Nat) : Traffic Item :=
  ((traffic.step (.drop holder)).map Prod.fst).getD traffic

/-- What comes of a call in a number of turns: its answer, or it is given up when it has to wait. -/
def carry (traffic : Traffic Item) (holder : Nat) : Nat → Traffic Item × Option (QueueAnswer Item)
  | 0 => (traffic.withoutCall holder, none)
  | turns + 1 =>
    match traffic.step (.poll holder) with
    | some (next, none) => carry next holder turns
    | some (next, answer) => (next, answer)
    | none => (traffic.withoutCall holder, none)

/-- What comes of a call that is not given any time. A call has two turns at most, one for the lock and one
for the item. -/
def attempt (traffic : Traffic Item) (holder : Nat) (call : QueueCall Item) :
    Traffic Item × Option (QueueAnswer Item) :=
  match traffic.step (.call holder call) with
  | some (begun, _) => begun.carry holder 2
  | none => (traffic, none)

end Traffic

/-- The items of the offers that were queued, in order. -/
def queuedItems {Item : Type u} (answers : List (QueueAnswer Item)) : List Item :=
  answers.filterMap fun
    | .offered item .queued => some item
    | _ => none

/-- The items that were taken, in order. -/
def takenItems {Item : Type u} (answers : List (QueueAnswer Item)) : List Item :=
  answers.filterMap fun
    | .taken item => item
    | _ => none

end Telemetry
