import Telemetry.Http.Head
import Telemetry.Http.Message
import Telemetry.Text.Lossy

/-!
# Messages on a connection

Requests are read from the bytes of a connection one after another, and each response is written before the
next request is read. The other side writes requests and reads responses.
-/

namespace Telemetry

/-- Why the bytes of a connection are no request. -/
inductive RequestFault
  | method
  | target
  | version
  | head (fault : HeadFault)
  /-- The connection came to an end in the middle of a request. -/
  | cutOff
  deriving DecidableEq, Repr

/-- The wording of a fault. -/
def RequestFault.message : RequestFault → String
  | method => "invalid HTTP method parsed"
  | target => "invalid URI"
  | version => "invalid HTTP version parsed"
  | head .header => "invalid HTTP header parsed"
  | head .declaredLength => "invalid content-length parsed"
  | head .chunk => "error reading a body from connection"
  | cutOff => "connection closed before message completed"

/-- Bytes as text, one character for each byte. -/
def asciiText (bytes : Bytes) : String :=
  String.ofList (bytes.map fun byte => Char.ofNat byte.toNat)

/-- A line with its end. -/
def wireLine (text : String) : Bytes :=
  Text.utf8 text ++ [0x0d, 0x0a]

/-- A header as a line. -/
def headerLine (header : String × Bytes) : Bytes :=
  Text.utf8 header.1 ++ Text.utf8 ": " ++ header.2 ++ [0x0d, 0x0a]

/-- A head and a body, with the length of the body declared. -/
def wireMessage (firstLine : String) (headers : Headers) (body : Bytes) : Bytes :=
  wireLine firstLine ++ (headers.declaring body).flatMap headerLine ++ wireLine "" ++ body

namespace Request

/-- Whether a byte may stand in a target. -/
def isTargetByte (byte : UInt8) : Bool :=
  0x20 < byte && byte != 0x7f

/-- The method and the target that a first line writes. -/
def firstLine (line : Bytes) : Except RequestFault (String × String) :=
  let method := line.takeWhile (· != 0x20)
  let rest := (line.drop method.length).drop 1
  let target := rest.takeWhile (· != 0x20)
  let version := asciiText ((rest.drop target.length).drop 1)
  if method.isEmpty || !method.all Head.isTokenByte || method.length == line.length then
    .error .method
  else if target.isEmpty || !target.all isTargetByte || target.length == rest.length then
    .error .target
  else if version = "HTTP/1.1" ∨ version = "HTTP/1.0" then
    .ok (asciiText method, Text.lossy target)
  else
    .error .version

/-- The request that a first line, headers and a body make. -/
def make (line : String × String) (headers : Headers) (body : Bytes) : Request :=
  ⟨line.1, pathOf line.2, headers, body⟩

/-- The faults of heads and bodies among those of requests. -/
def ofHead {Message : Type} : Arrival Message HeadFault → Arrival Message RequestFault
  | .partly => .partly
  | .malformed fault => .malformed (.head fault)
  | .whole message rest => .whole message rest

/-- The request at the start of some bytes. A first line that is wrong is found out before the head has
come to its end. -/
def read (bytes : Bytes) : Arrival Request RequestFault :=
  match Head.firstLine? bytes with
  | none => .partly
  | some line =>
    match firstLine line with
    | .error fault => .malformed fault
    | .ok line =>
      (ofHead (Head.read bytes)).andThen fun head rest =>
        match head.framing with
        | .error fault => .malformed (.head fault)
        | .ok framing => (ofHead (Head.body rest framing)).andThen fun body rest =>
          .whole (make line head.headers body) rest

/-- How many bytes at least are missing from the request at the start of some bytes. -/
def missing (bytes : Bytes) : Nat :=
  match Head.read bytes with
  | .whole head rest =>
    match head.framing with
    | .ok (.declared length) => max 1 (length - rest.length)
    | _ => 1
  | _ => 1

/-- Whether more requests may follow this one on its connection. -/
def keepsConnection (request : Request) : Bool :=
  !request.headers.lists "connection" "close"

/-- A request as it is sent to a host. -/
def wire (method target host : String) (headers : Headers) (body : Bytes) : Bytes :=
  wireMessage (method ++ " " ++ target ++ " HTTP/1.1") (("host", Text.utf8 host) :: headers) body

end Request

namespace Response

/-- A response as it is sent over a connection: without its body if the head alone was asked for. -/
def asSent (request : Request) (response : Response) : Response :=
  if request.method = "HEAD" then { response with body := [] } else response

/-- The answer to bytes that are no request. -/
def toFault : Response :=
  plain 400 .plain []

/-- The bytes of a response. -/
def wire (response : Response) : Bytes :=
  wireMessage ("HTTP/1.1 " ++ Status.text response.status)
    (response.headers.map fun (name, value) => (name, Text.utf8 value)) response.body

end Response

/-- The status that a first line writes. -/
def statusOfLine? (line : Bytes) : Option Status :=
  match (Text.pieces ' ' (asciiText line).toList).map String.ofList with
  | version :: status :: _ =>
    if "HTTP/1.".toList.isPrefixOf version.toList then boundedNatural? 1000 status else none
  | _ => none

/-- The status and the body of the response at the start of some bytes. A body of which nothing is said
goes on until the connection `closed`. -/
def readAnswer (bytes : Bytes) (closed : Bool) : Arrival (Status × Bytes) HeadFault :=
  (Head.read bytes).andThen fun head rest =>
    match statusOfLine? head.firstLine, head.framing with
    | none, _ => .malformed .header
    | _, .error fault => .malformed fault
    | some status, .ok framing =>
      if status.isBodyless then .whole (status, []) rest
      else
        match framing with
        | .undeclared => if closed then .whole (status, rest) [] else .partly
        | framing => (Head.body rest framing).andThen fun body rest => .whole (status, body) rest

end Telemetry
