import Telemetry.Text.Base64
import Telemetry.Text.Pieces

/-!
# Labelled text envelopes

A key is kept in a text file between a line that says where it begins and one that says where it ends, both
with the label of what it is. Between them stands Base64 in lines of 64 characters, of which the last may
be shorter. Text may come before the first line but not after the last one.
-/

namespace Telemetry.Pem

/-- What follows the end of a line: a line feed, a carriage return, or both. -/
def afterLineEnd? : Bytes → Option Bytes
  | 0x0a :: rest => some rest
  | 0x0d :: 0x0a :: rest => some rest
  | 0x0d :: rest => some rest
  | _ => none

/-- What comes before the end of the last line. -/
def beforeLineEnd? (text : Bytes) : Option Bytes :=
  match text.reverse with
  | 0x0a :: 0x0d :: rest => some rest.reverse
  | 0x0a :: rest => some rest.reverse
  | 0x0d :: rest => some rest.reverse
  | _ => none

/-- What the first line begins with. -/
def opening : Bytes := Text.utf8 "-----BEGIN "

/-- What the last line begins with. -/
def closing : Bytes := Text.utf8 "-----END "

/-- What both lines end with. -/
def dashes : Bytes := Text.utf8 "-----"

/-- What follows the beginning of the first line, at the start of the text or of a later line. A zero byte
before it is not text. -/
def afterOpening? (text : Bytes) : Option Bytes :=
  match Text.afterStart? opening text with
  | some rest => some rest
  | none => search text
where
  /-- Looks for the first line from the end of some line on. -/
  search : Bytes → Option Bytes
    | [] => none
    | byte :: rest =>
      if byte = 0 then none
      else if byte = 0x0a then
        match Text.afterStart? opening rest with
        | some rest => some rest
        | none => search rest
      else search rest

/-- The width of a line. -/
def width : Nat := 64

/-- The characters of lines that all have the full width, except that the last may have less. -/
def joinLines? (text : Bytes) : Option Bytes :=
  if text.length ≤ width then
    some text
  else
    match afterLineEnd? (text.drop width) with
    | none => none
    | some rest =>
      if rest.length < text.length then (joinLines? rest).map (text.take width ++ ·) else none
termination_by text.length

/-- The bytes in an envelope with the given label. -/
def content? (label : String) (text : Bytes) : Option Bytes := do
  let label := Text.utf8 label
  let labelled ← afterOpening? text
  let afterLabel ← Text.afterStart? label labelled
  let afterDashes ← Text.afterStart? dashes afterLabel
  let body ← afterLineEnd? afterDashes
  let body ← Text.beforeEnd? dashes ((beforeLineEnd? body).getD body)
  let body ← Text.beforeEnd? label body
  let body ← Text.beforeEnd? closing body
  let lines ← beforeLineEnd? body
  let characters ← joinLines? lines
  Base64.decode? characters

end Telemetry.Pem
