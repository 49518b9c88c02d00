import Telemetry.Collector.Refusal
import Telemetry.Payload.Frame
import Telemetry.Protocol

/-!
# Commands

What a request asks of the collector. `Gate.command` finds that out from the request alone, without a look
at what is stored; whatever is wrong with a request by itself is refused there.

A request that sends records as JSON is checked in this order: the address it comes from, the type of its
body, the declared length, the actual length, and the frame.
-/

namespace Telemetry

/-- What a request asks for. -/
inductive Command
  | list
  | ping
  /-- The text of one value. -/
  | show (asked : Record)
  /-- The record of one value. -/
  | query (asked : Record)
  /-- An update, with nothing in the answer. -/
  | set (record : Record)
  /-- An update, with the stored value in the answer. -/
  | update (record : Record)
  | updateBatch (records : List Record)
  deriving DecidableEq, Repr

/-- Whether a command only looks at the store. -/
def Command.isQuery : Command → Bool
  | list | ping | .show _ | .query _ => true
  | set _ | update _ | updateBatch _ => false

/-- How requests are checked: how frames are read, and where updates may come from. -/
structure Gate where
  reader : FrameReader := {}
  trustedSubnet : Option Subnet := none
  deriving DecidableEq, Repr

namespace Gate

/-- The largest body, in bytes. -/
def longestBody : Nat := 10 * 1024 * 1024

/-- Checks where a request comes from. -/
def checkAddress (gate : Gate) (headers : Headers) : Except Refusal Unit :=
  match gate.trustedSubnet with
  | none => .ok ()
  | some subnet =>
    let address := headers.firstText? Protocol.addressHeader
    if subnet.allows address then .ok () else .error (.untrusted address subnet)

/-- Checks the type of a body. -/
def checkType (headers : Headers) (expected : String) : Except Refusal Unit :=
  if headers.allowsType expected then .ok () else .error (.wrongType expected)

/-- Checks the declared length of a body, if there is one. -/
def checkDeclaredLength (headers : Headers) (longest : Nat) : Except Refusal Unit :=
  match headers.first? "content-length" with
  | none => .ok ()
  | some value =>
    match (Headers.text? value).bind (boundedNatural? wordLimit) with
    | none => .error .invalidLength
    | some length => if longest < length then .error .declaredTooLong else .ok ()

/-- Checks the length of a body. -/
def checkLength (body : Bytes) : Except Refusal Unit :=
  if longestBody < body.length then .error .bodyTooLong else .ok ()

/-- What a reader of frames makes of the body of a request. -/
def body {Datum : Type} (read : Bytes → Bool → Option String → Except PayloadError Datum)
    (request : Request) : Except Refusal Datum := do
  checkType request.headers "application/json"
  checkDeclaredLength request.headers longestBody
  checkLength request.body
  (read request.body request.headers.isGzipped
    (request.headers.firstText? Protocol.signatureHeader)).mapError .payload

/-- The record that a text route updates. -/
def textRecord (headers : Headers) (type name raw : String) : Except Refusal Record := do
  checkType headers "text/plain"
  if name = "" then
    throw .missingName
  (Record.ofText type name raw).mapError fun cause => .service (.validation cause)

/-- The parts of a path between slashes; slashes in front do not count. -/
def segments (path : String) : List String :=
  (Text.pieces '/' (path.toList.dropWhile (· == '/'))).map String.ofList

/-- The first segments of the paths that answer some method. -/
def knownSegments : List String := ["value", "update", "updates"]

/-- Whether a path answers some method. -/
def isKnown : List String → Bool
  | [""] => true
  | ["ping"] => true
  | first :: _ => knownSegments.contains first
  | [] => false

/-- The refusal of a request that no route takes. -/
def unrouted (method path : String) : Refusal :=
  if isKnown (segments path) && method != "GET" && method != "POST" then .methodNotAllowed method
  else .noRoute path

/-- What a request asks for. -/
def command (gate : Gate) (request : Request) : Except Refusal Command :=
  match request.method, segments request.path with
  | "GET", [""] => .ok .list
  | "GET", ["ping"] => .ok .ping
  | "GET", ["value", type, name] =>
    if name = "" then .error .missingName else .ok (.show (Record.query name (RecordType.ofName type)))
  | "POST", ["value"] | "POST", ["value", ""] => (body gate.reader.record request).map .query
  | "POST", ["update"] | "POST", ["update", ""] => do
    gate.checkAddress request.headers
    (body gate.reader.record request).map .update
  | "POST", ["update", type, name, raw] => (textRecord request.headers type name raw).map .set
  | "POST", ["updates"] | "POST", ["updates", ""] => do
    gate.checkAddress request.headers
    (body gate.reader.records request).map .updateBatch
  | _, _ => .error (unrouted request.method request.path)

end Gate

end Telemetry
