import Telemetry.Agent.Error
import Telemetry.Agent.Settings
import Telemetry.Http.Message
import Telemetry.Net.Url
import Telemetry.Payload.Frame
import Telemetry.Protocol
import Telemetry.Retry
import Telemetry.Text.Lossy

/-!
# Sending

A sender frames records once and posts the frame to the collector, again and again while that fails with a
cause that another attempt may get past. All attempts carry the same body and the same headers. An empty
batch is not sent at all.

How a message gets to the collector and back is left open: it is an action in some world, which gives the
status and the body of the answer or fails.
-/

namespace Telemetry

/-- How an agent sends records. -/
structure Sender where
  /-- The address of the collector, without slashes at its end. -/
  base : String
  writer : FrameWriter := {}
  policy : RetryPolicy := .standard
  /-- The address of the agent's machine, if it is known. -/
  origin : Option String := none

/-- A message to the collector. -/
structure Post where
  url : Url
  headers : Headers
  body : Bytes
  deriving DecidableEq, Repr

/-- A message as the collector sees it, with the length of its body declared. -/
def Post.request (post : Post) : Request :=
  ⟨"POST", Request.pathOf post.url.target, post.headers.declaring post.body, post.body⟩

/-- A way to get a message to the collector and its answer back. -/
abbrev Exchange (World : Type) := Post → Action World SendError (Status × Bytes)

/-- What becomes of one message to the collector. -/
inductive Passage
  /-- Nobody takes it. -/
  | refused
  /-- It is taken, and no answer comes. -/
  | unanswered
  | answered (status : Status) (body : Bytes)
  deriving DecidableEq, Repr

/-- Messages get through as a script says, and those that are taken are kept in order. When the script is
used up, they are answered with success. -/
def Exchange.scripted : Exchange (List Passage × List Post) := fun post (script, taken) =>
  match (script.head?).getD (.answered 200 []) with
  | .refused => ⟨.error .noAnswer, (script.tail, taken), []⟩
  | .unanswered => ⟨.error .noAnswer, (script.tail, taken ++ [post]), []⟩
  | .answered status body =>
    ⟨.ok (status, if status.isBodyless then [] else body), (script.tail, taken ++ [post]), []⟩

namespace Sender

variable {World : Type}

/-- A text without slashes at its end. -/
def withoutSlashes (text : String) : String :=
  String.ofList (text.toList.reverse.dropWhile (· == '/')).reverse

/-- A sender to the collector with the given address. -/
def toCollector (address : String) (writer : FrameWriter) : Sender :=
  { base := withoutSlashes address, writer }

/-- The headers that go with a frame. -/
def headers (sender : Sender) (frame : Frame) : Headers :=
  [("content-encoding", Text.utf8 "gzip"), ("content-type", Text.utf8 ContentType.json.text)] ++
    (sender.origin.map fun address => (Protocol.addressHeader, Text.utf8 address)).toList ++
    (frame.signature.map fun signature => (Protocol.signatureHeader, Text.utf8 signature)).toList

/-- The message that takes a frame to a path, if the address of the collector is one. -/
def post? (sender : Sender) (path : String) (frame : Frame) : Option Post :=
  (Url.ofText? (sender.base ++ path)).map fun url => ⟨url, sender.headers frame, frame.body⟩

/-- What an answer means. -/
def verdict (answer : Status × Bytes) : Except SendError Unit :=
  if Status.isSuccess answer.1 then .ok () else .error (.refused answer.1 (Text.lossy answer.2))

/-- One attempt. -/
def attempt (exchange : Exchange World) : Option Post → Action World SendError Unit
  | none => .fail .badAddress
  | some post => do
    let answer ← exchange post
    Action.ofExcept (verdict answer)

/-- What the attempts to post to a path have in common. -/
def terms (wait : Milliseconds → World → World) (path : String) : RetryTerms World SendError :=
  ⟨"POST " ++ path, SendError.isRetriable, SendError.message, wait⟩

/-- Posts a framed payload to a path. -/
def deliver (sender : Sender) (exchange : Exchange World) (wait : Milliseconds → World → World)
    (path : String) (frame : Except PayloadError Frame) : Action World SendError Unit :=
  match frame with
  | .error cause => .fail (.encode cause)
  | .ok frame => (terms wait path).run sender.policy (attempt exchange (sender.post? path frame))

/-- The frame of a batch. -/
def batchFrame (sender : Sender) (entropy : Entropy) (batch : Batch) : Except PayloadError Frame :=
  sender.writer.frame entropy (Record.batchBytes batch)

/-- Sends a batch. -/
def sendBatch (sender : Sender) (exchange : Exchange World) (wait : Milliseconds → World → World)
    (entropy : Entropy) (batch : Batch) : Action World SendError Unit :=
  if batch.isEmpty then .fail .emptyBatch
  else sender.deliver exchange wait Protocol.batchPath (sender.batchFrame entropy batch)

/-- Sends one record. -/
def sendRecord (sender : Sender) (exchange : Exchange World) (wait : Milliseconds → World → World)
    (entropy : Entropy) (record : Record) : Action World SendError Unit :=
  sender.deliver exchange wait Protocol.recordPath (sender.writer.frame entropy record.bytes)

end Sender

end Telemetry
