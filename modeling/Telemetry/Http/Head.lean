import Telemetry.Http.Headers
import Telemetry.Number.Count
import Telemetry.Text.Hex

/-!
# Heads and bodies

On a connection a message is a head and a body. The head is a first line and a line for each header, and an
empty line ends it. The headers say where the body ends: it comes in chunks, or it has a declared length.

What has not arrived yet and what is malformed are told apart: the first can still become a message.
-/

namespace Telemetry

/-- What the bytes of a connection amount to so far. -/
inductive Arrival (Message Fault : Type)
  /-- More has to come. -/
  | partly
  | malformed (fault : Fault)
  /-- A message, and what comes after it. -/
  | whole (message : Message) (rest : Bytes)

namespace Arrival

variable {Message Other Fault : Type}

/-- Goes on with a message that is whole and what comes after it. -/
def andThen (arrival : Arrival Message Fault) (next : Message → Bytes → Arrival Other Fault) :
    Arrival Other Fault :=
  match arrival with
  | partly => partly
  | malformed fault => malformed fault
  | whole message rest => next message rest

end Arrival

/-- What is wrong with a head or a body. -/
inductive HeadFault
  | header
  | declaredLength
  | chunk
  deriving DecidableEq, Repr

/-- A head. -/
structure Head where
  firstLine : Bytes
  headers : Headers
  deriving DecidableEq, Repr

namespace Head

/-- The lines of a head, and what comes after it if it has ended. `line` is the line that is being read
and `lines` are those before it, both backwards. A line may end without a carriage return, and empty lines
in front do not count. -/
def linesOnto (line : Bytes) (lines : List Bytes) : Bytes → List Bytes × Option Bytes
  | [] => (lines.reverse, none)
  | byte :: rest =>
    if byte = 0x0a then
      let whole := if line.head? = some 0x0d then line.tail else line
      if whole = [] then
        if lines = [] then linesOnto [] [] rest else (lines.reverse, some rest)
      else
        linesOnto [] (whole.reverse :: lines) rest
    else
      linesOnto (byte :: line) lines rest

/-- Whether a byte may stand in a method or in the name of a header. -/
def isTokenByte (byte : UInt8) : Bool :=
  let character := Char.ofNat byte.toNat
  character.isAlphanum || "!#$%&'*+-.^_|~".toList.contains character || byte == 0x60

/-- Whether a byte may stand in the value of a header. -/
def isValueByte (byte : UInt8) : Bool :=
  byte == 0x09 || (0x20 ≤ byte && byte != 0x7f)

/-- Whether a byte is a blank of a head. -/
def isBlank (byte : UInt8) : Bool :=
  byte == 0x20 || byte == 0x09

/-- Bytes without blanks at the ends. -/
def trim (bytes : Bytes) : Bytes :=
  ((bytes.dropWhile isBlank).reverse.dropWhile isBlank).reverse

/-- The header that a line writes. -/
def header? (line : Bytes) : Option (String × Bytes) :=
  let name := line.takeWhile (· != 0x3a)
  match line.dropWhile (· != 0x3a) with
  | [] => none
  | _ :: value =>
    let value := trim value
    if !name.isEmpty && name.all isTokenByte && value.all isValueByte then
      (Text.text? name).map fun name => (name, value)
    else
      none

/-- The head at the start of some bytes. -/
def read (bytes : Bytes) : Arrival Head HeadFault :=
  match linesOnto [] [] bytes with
  | (lines, rest) =>
    match lines.tail.mapM header?, lines.head?, rest with
    | none, _, _ => .malformed .header
    | some headers, some firstLine, some rest => .whole ⟨firstLine, headers⟩ rest
    | some _, _, _ => .partly

/-- The first line at the start of some bytes, as soon as it has come to its end. -/
def firstLine? (bytes : Bytes) : Option Bytes :=
  (linesOnto [] [] bytes).1.head?

/-- How the end of a body is found. -/
inductive Framing
  | chunked
  | declared (length : Nat)
  /-- Nothing is said about it. -/
  | undeclared
  deriving DecidableEq, Repr

/-- The length that the headers declare; all of them have to agree. -/
def declaredLength (headers : Headers) : Except HeadFault (Option Nat) :=
  match headers.values "content-length" with
  | [] => .ok none
  | value :: others =>
    match (Headers.text? value).bind fun text => Decimal.natural? text.toList with
    | some length => if others.all (· == value) then .ok (some length) else .error .declaredLength
    | none => .error .declaredLength

/-- How the end of the body is found. -/
def framing (head : Head) : Except HeadFault Framing :=
  if head.headers.lists "transfer-encoding" "chunked" then .ok .chunked
  else
    (declaredLength head.headers).map fun
      | some length => .declared length
      | none => .undeclared

/-- The first so many bytes. -/
def takeExactly (length : Nat) (bytes : Bytes) : Arrival Bytes HeadFault :=
  if bytes.length < length then .partly else .whole (bytes.take length) (bytes.drop length)

/-- A line, and what comes after it. -/
def takeLine (bytes : Bytes) : Arrival Bytes HeadFault :=
  match bytes.dropWhile (· != 0x0a) with
  | [] => .partly
  | _ :: rest => .whole ((bytes.takeWhile (· != 0x0a)).filter (· != 0x0d)) rest

/-- The size of a chunk, which may be followed by more after a semicolon. -/
def chunkSize? (line : Bytes) : Option Nat :=
  match trim (line.takeWhile (· != 0x3b)) with
  | [] => none
  | digits =>
    digits.foldlM (fun size digit => (Hex.value? digit).map fun value => 16 * size + value) 0

/-- The lines after the last chunk up to an empty one; there are so many at most. -/
def skipTrailer : Nat → Bytes → Arrival Unit HeadFault
  | 0, _ => .partly
  | most + 1, bytes =>
    (takeLine bytes).andThen fun line rest =>
      if line = [] then .whole () rest else skipTrailer most rest

/-- The contents of chunks after `read`; there are so many at most. -/
def chunksOnto (read : Bytes) : Nat → Bytes → Arrival Bytes HeadFault
  | 0, _ => .partly
  | most + 1, bytes =>
    (takeLine bytes).andThen fun line rest =>
      match chunkSize? line with
      | none => .malformed .chunk
      | some 0 => (skipTrailer (rest.length + 1) rest).andThen fun _ rest => .whole read rest
      | some size =>
        (takeExactly size rest).andThen fun content rest =>
          (takeLine rest).andThen fun line rest =>
            if line = [] then chunksOnto (read ++ content) most rest else .malformed .chunk

/-- The body at the start of some bytes. -/
def body (bytes : Bytes) : Framing → Arrival Bytes HeadFault
  | .chunked => chunksOnto [] (bytes.length + 1) bytes
  | .declared length => takeExactly length bytes
  | .undeclared => .whole [] bytes

end Head

end Telemetry
