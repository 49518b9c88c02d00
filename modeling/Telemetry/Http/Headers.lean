import Telemetry.Text.Blank
import Telemetry.Text.Bytes
import Telemetry.Text.Pieces

/-!
# Headers

The headers of a message are names with values, in order. Names are the same in any letter case; a name may
come more than once. A value is any bytes; it can be read as text only if it has nothing but visible
characters of ASCII, spaces and tabs.
-/

namespace Telemetry

/-- Names and values, in order. -/
abbrev Headers := List (String × Bytes)

/-- Whether two texts are the same in any letter case of ASCII. -/
def sameName (first second : String) : Bool :=
  first.toList.map Char.toLower == second.toList.map Char.toLower

namespace Headers

/-- Whether a byte may stand in a value that is text. -/
def isReadable (byte : UInt8) : Bool :=
  byte == 0x09 || (0x20 ≤ byte && byte < 0x7f)

/-- A value as text. -/
def text? (value : Bytes) : Option String :=
  if value.all isReadable then Text.text? value else none

/-- The values with a name. -/
def values (headers : Headers) (name : String) : List Bytes :=
  (headers.filter fun header => sameName header.1 name).map Prod.snd

/-- The first value with a name. -/
def first? (headers : Headers) (name : String) : Option Bytes :=
  (headers.values name).head?

/-- The first value with a name, as text. -/
def firstText? (headers : Headers) (name : String) : Option String :=
  (headers.first? name).bind text?

/-- The headers of a message, with the length of its body declared. -/
def declaring (headers : Headers) (body : Bytes) : Headers :=
  headers ++ [("content-length", Text.utf8 (toString body.length))]

/-- What stands before a semicolon, without blanks at the ends. -/
def beforeParameters (text : List Char) : String :=
  Text.trim (String.ofList (Text.cut ';' text).1)

/-- Whether the values with a name list a coding, among others between commas. -/
def lists (headers : Headers) (name coding : String) : Bool :=
  (headers.values name).any fun value =>
    match text? value with
    | none => false
    | some text =>
      (Text.pieces ',' text.toList).any fun piece => sameName (beforeParameters piece) coding

/-- Whether the sender takes compressed answers. -/
def acceptsGzip (headers : Headers) : Bool :=
  headers.lists "accept-encoding" "gzip"

/-- Whether the body is compressed. -/
def isGzipped (headers : Headers) : Bool :=
  headers.lists "content-encoding" "gzip"

/-- Whether the body has a type, as far as the headers say. -/
def allowsType (headers : Headers) (expected : String) : Bool :=
  match headers.first? "content-type" with
  | none => true
  | some value => (text? value).any fun text => sameName (beforeParameters text.toList) expected

end Headers

end Telemetry
