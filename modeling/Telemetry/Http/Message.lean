import Telemetry.Compression.Gzip
import Telemetry.Http.Headers
import Telemetry.Http.Status
import Telemetry.Json.Printer

/-!
# Requests and responses

A request names a method and a target; its path is what the target says between the host and the query. A
response has a status, a content type, a body, and two headers that depend on the request and on the body:
the coding of the body and its signature.
-/

namespace Telemetry

/-- A request. -/
structure Request where
  method : String
  path : String
  headers : Headers
  body : Bytes
  deriving DecidableEq, Repr

namespace Request

/-- What stands before a query or a fragment. -/
def beforeQuery (target : List Char) : List Char :=
  target.takeWhile fun character => character != '?' && character != '#'

/-- What follows the two slashes after a scheme, if there are any. -/
def afterScheme? : List Char → Option (List Char)
  | '/' :: '/' :: rest => some rest
  | _ :: rest => afterScheme? rest
  | [] => none

/-- The path that a target names. A target without a path names the root, if it has a scheme. -/
def pathOf (target : String) : String :=
  let characters := target.toList
  if characters.head? = some '/' ∨ characters.head? = some '*' then
    String.ofList (beforeQuery characters)
  else
    match afterScheme? characters with
    | none => ""
    | some rest =>
      let path := (beforeQuery rest).dropWhile (· != '/')
      if path.isEmpty then "/" else String.ofList path

end Request

/-- The type of the body of a response. -/
inductive ContentType
  | plain
  | html
  | json
  deriving DecidableEq, Repr

/-- The text of a content type in a header. -/
def ContentType.text : ContentType → String
  | plain => "text/plain; charset=utf-8"
  | html => "text/html; charset=utf-8"
  | json => "application/json"

/-- A response. -/
structure Response where
  status : Status
  contentType : ContentType
  signature : Option String
  /-- Whether the body is compressed. -/
  compressed : Bool
  body : Bytes
  deriving DecidableEq, Repr

namespace Response

/-- A response without a signature whose body stands there as it is. -/
def plain (status : Status) (contentType : ContentType) (body : Bytes) : Response :=
  ⟨status, contentType, none, false, body⟩

/-- A response that says something in the member `message` of an object. -/
def saying (status : Status) (message : String) : Response :=
  plain status .json ((Json.ofMembers [("message", Json.ofText message)]).bytes .compact)

/-- Compresses the body; an empty one stays as it is. -/
def compress (response : Response) : Response :=
  if response.body = [] then response
  else { response with body := Gzip.pack response.body, compressed := true }

/-- The headers of a response, with their names in lower case. -/
def headers (response : Response) : List (String × String) :=
  [("content-type", response.contentType.text)] ++
    (if response.compressed then [("content-encoding", "gzip")] else []) ++
    (response.signature.map fun signature => ("hashsha256", signature)).toList

end Response

end Telemetry
