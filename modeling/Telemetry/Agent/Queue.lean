import Telemetry.Number.Word

/-!
# The dispatch queue

A queue holds a bounded number of items between those who offer them and those who take them. Items leave
in the order in which they came.

An offer waits while there is no room. There is one receiver, behind a lock: whoever takes an item waits
for the lock first, and then, with the lock, for an item; or, in the case of `Taking.ifAny`, gives up at
once when there is none. A wait ends when it is cancelled, and cancellation comes before everything else.
A call that waits has no effect on the items until it ends, so it can be given up at any time; it only has
to give back the lock.

The room of a queue is computed in machine words, and there is a limit to it. Making a queue beyond the limit
stops the program, so `create?` does not give one.
-/

namespace Telemetry

universe u

/-- A bounded queue. -/
structure Queue (Item : Type u) where
  capacity : Nat
  /-- The items, first in first. -/
  content : List Item
  /-- Who has the lock of the receiver. -/
  lock : Option Nat
  /-- Whether nobody is left who might offer. -/
  offersEnded : Bool
  /-- Whether nobody is left who might take. -/
  takesEnded : Bool
  deriving DecidableEq, Repr

/-- What an offer comes to. -/
inductive Offered
  | queued
  | cancelled
  | closed
  deriving DecidableEq, Repr

/-- What a call that takes an item waits for. -/
inductive Taking
  /-- The lock, and then an item. -/
  | lock
  /-- An item; the call has the lock. -/
  | item
  /-- The lock only; then there is an item or not. -/
  | ifAny
  deriving DecidableEq, Repr

/-- How far a call that takes an item gets. -/
inductive TakeProgress (Item : Type u)
  /-- It has got the lock and goes on to wait for an item. -/
  | locked
  | ended (item : Option Item)
  deriving DecidableEq, Repr

namespace Queue

variable {Item : Type u}

/-- The empty queue with room for two items for each of those who take them at once. -/
def forTakers (takers : Nat) : Queue Item :=
  ⟨2 * max 1 takers, [], none, false, false⟩

/-- The most items that a queue can have room for. -/
def mostRoom : Nat := wordLimit / 8 - 1

/-- The empty queue with room for two items for each of those who take them at once, where this room can be
computed and made. -/
def create? (overflow : Overflow) (takers : Nat) : Option (Queue Item) :=
  (overflow.word? (2 * max 1 takers)).bind fun room =>
    if 1 ≤ room ∧ room ≤ mostRoom then some { forTakers takers with capacity := room } else none

/-- Puts an item at the end. -/
def push (queue : Queue Item) (item : Item) : Queue Item :=
  { queue with content := queue.content ++ [item] }

/-- Gives the lock to `taker`. -/
def acquire (queue : Queue Item) (taker : Nat) : Queue Item :=
  { queue with lock := some taker }

/-- Gives the lock back. -/
def release (queue : Queue Item) : Queue Item :=
  { queue with lock := none }

/-- Takes the first item out and gives the lock back. -/
def pop (queue : Queue Item) : Queue Item :=
  { queue with content := queue.content.tail, lock := none }

/-- What an offer comes to, unless it has to wait. -/
def offer? (queue : Queue Item) (cancelled : Bool) (item : Item) : Option (Offered × Queue Item) :=
  if cancelled then some (.cancelled, queue)
  else if queue.takesEnded then some (.closed, queue)
  else if queue.content.length < queue.capacity then some (.queued, queue.push item)
  else none

/-- How far a call of `taker` that takes an item gets, unless it has to wait. -/
def take? (queue : Queue Item) (cancelled : Bool) (taker : Nat) :
    Taking → Option (TakeProgress Item × Queue Item)
  | .lock =>
    if cancelled then some (.ended none, queue)
    else if queue.lock.isNone then some (.locked, queue.acquire taker)
    else none
  | .item =>
    if cancelled then some (.ended none, queue.release)
    else if queue.content.isEmpty && !queue.offersEnded then none
    else some (.ended queue.content.head?, queue.pop)
  | .ifAny =>
    if queue.lock.isNone then some (.ended queue.content.head?, queue.pop) else none

/-- The queue after a call of `taker` that takes an item is given up. -/
def giveUp (queue : Queue Item) : Taking → Queue Item
  | .item => queue.release
  | _ => queue

end Queue

end Telemetry
