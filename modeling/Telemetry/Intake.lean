import Telemetry.Agent.Rehearsal
import Telemetry.Agent.Sender
import Telemetry.Collector.Handler
import Telemetry.Store.Memory

/-!
# From sender to store

What an agent's sender sends and what a collector in memory makes of it: without a network in between, or
with one that loses messages and answers.
-/

namespace Telemetry

/-- A collector in memory: how it checks requests, and what it holds. -/
structure Intake where
  gate : Gate
  storage : MemoryStorage

namespace Intake

/-- The intake after a message, the response to it, and what is logged. -/
def answer (intake : Intake) (post : Post) : Response × Intake × List LogLine :=
  let (response, storage, log) :=
    intake.gate.handle MemoryStorage.backend post.request intake.storage
  (response, { intake with storage }, log)

/-- The message that takes a batch to the collector, unless the batch cannot be framed or the address of
the collector is none. -/
def postOf? (sender : Sender) (entropy : Entropy) (batch : Batch) : Option Post :=
  match sender.batchFrame entropy batch with
  | .ok frame => sender.post? Protocol.batchPath frame
  | .error _ => none

/-- A batch that is delivered by a sender reaches the intake. -/
def recipient (sender : Sender) (entropy : Entropy) : Recipient Intake := fun batch intake =>
  match postOf? sender entropy batch with
  | some post =>
    let (response, intake, log) := intake.answer post
    (some response.status, intake, log)
  | none => (none, intake, [])

end Intake

/-! ## Losses -/

/-- What becomes of a message to an intake. -/
inductive Transit
  /-- It is lost. -/
  | lost
  | answered
  /-- It is handled, and the answer is lost. -/
  | answerLost
  deriving DecidableEq, Repr

/-- A message that was sent through a network. -/
structure Sending where
  post : Post
  /-- The status that it was answered with, if it was handled. -/
  status : Option Status
  /-- The answer that the sender got. -/
  answer : Except SendError (Status × Bytes)

namespace Sending

/-- Whether the message was handled and answered with status 200. -/
def isAccepted (sending : Sending) : Bool :=
  sending.status == some 200

/-- What it comes to for the sender. -/
def outcome (sending : Sending) : Except SendError Unit :=
  sending.answer.bind Sender.verdict

end Sending

/-- An intake behind a network that loses messages and answers. -/
structure LossyNetwork where
  intake : Intake
  /-- What becomes of the messages to come; when that is used up, they are answered. -/
  transits : List Transit
  /-- All messages so far. -/
  sent : List Sending := []

namespace LossyNetwork

/-- What becomes of the next message. -/
def sending (network : LossyNetwork) (post : Post) : Sending :=
  let response := (network.intake.answer post).1
  match network.transits.head?.getD .answered with
  | .lost => ⟨post, none, .error .noAnswer⟩
  | .answered => ⟨post, some response.status, .ok (response.status, response.body)⟩
  | .answerLost => ⟨post, some response.status, .error .noAnswer⟩

/-- Sends a message through the network. -/
def exchange : Exchange LossyNetwork := fun post network =>
  let sending := network.sending post
  let intake := if sending.status.isSome then (network.intake.answer post).2.1 else network.intake
  ⟨sending.answer, ⟨intake, network.transits.tail, network.sent ++ [sending]⟩, []⟩

end LossyNetwork

end Telemetry
