import Telemetry.Collector.Command

/-!
# Answering requests

The collector answers a request in three steps: it finds out what the request asks for, does that over the
store, and writes the outcome as a response. Only the second step sees what is stored. In the end the body
is compressed if the sender takes that.
-/

namespace Telemetry

/-- What comes of a command that is done. -/
inductive Reply
  | text (body : String)
  | listing (body : String)
  | record (record : Record)
  | message (text : String)
  deriving DecidableEq, Repr

namespace Command

variable {World : Type}

/-- The text of a record's value. -/
def valueText (record : Record) : Except Refusal String :=
  match record.validate with
  | .ok value => .ok value.text
  | .error cause => .error (.service (.validation cause))

/-- A refusal to show a value; a query without a name or with an unknown type finds nothing. -/
def showRefusal : ServiceError → Refusal
  | .validation cause => .unknownMetric cause
  | cause => .service cause

/-- Does what a command says. -/
def perform (backend : Backend World) : Command → Action World Refusal Reply
  | list => do
    let metrics ← (Service.list backend).mapCause .service
    return .listing ("\n".intercalate (metrics.map fun (name, value) => value.listingLine name))
  | ping => do
    (Service.ping backend).mapCause .service
    return .text "OK"
  | .show asked => do
    let found ← (Service.value backend asked).mapCause showRefusal
    let text ← Action.ofExcept (valueText found)
    return .text text
  | .query asked => do
    let found ← (Service.value backend asked).mapCause .service
    return .record found
  | set record => do
    let _ ← (Service.update backend record).mapCause .service
    return .text ""
  | update record => do
    let stored ← (Service.update backend record).mapCause .service
    return .record stored
  | updateBatch records => do
    (Service.updateBatch backend records).mapCause .service
    return .message ("Updated " ++ toString records.length ++ " metrics")

end Command

namespace Response

/-- The response to a command that is done; a record is signed if there is a key. -/
def ofReply (key : Option String) : Reply → Response
  | .text body => plain 200 .plain (Text.utf8 body)
  | .listing body => plain 200 .html (Text.utf8 body)
  | .record record => { plain 200 .json record.bytes with signature := Signature.sign record.bytes key }
  | .message text => saying 200 text

/-- The response to a request that is refused. -/
def ofRefusal (refusal : Refusal) : Response :=
  saying refusal.status refusal.message

/-- The response to a request, before compression. -/
def ofOutcome (key : Option String) : Except Refusal Reply → Response
  | .ok reply => ofReply key reply
  | .error refusal => ofRefusal refusal

end Response

namespace Gate

variable {World : Type}

/-- Does what a request asks for, or refuses it. -/
def serve (gate : Gate) (backend : Backend World) (request : Request) : Action World Refusal Reply :=
  match gate.command request with
  | .ok command => command.perform backend
  | .error refusal => .fail refusal

/-- The lines about a request that was refused. -/
def refusalLines : Except Refusal Reply → List LogLine
  | .ok _ => []
  | .error refusal => LogLine.ofStatus refusal.status refusal.message

/-- Answers a request: the response, the world after it, and what is logged. -/
def handle (gate : Gate) (backend : Backend World) (request : Request) (world : World) :
    Response × World × List LogLine :=
  let outcome := gate.serve backend request world
  let response := Response.ofOutcome gate.reader.key outcome.result
  (if request.headers.acceptsGzip then response.compress else response, outcome.world,
    outcome.log ++ refusalLines outcome.result)

/-- Whether a request that is answered so has updated the store. -/
def updatesStore (gate : Gate) (request : Request) (response : Response) : Bool :=
  response.status = 200 && (gate.command request).toOption.any fun command => !command.isQuery

end Gate

end Telemetry
