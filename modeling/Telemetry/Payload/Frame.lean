import Telemetry.Compression.Gzip
import Telemetry.Metric.Wire
import Telemetry.Payload.Signature
import Telemetry.Sealing.Envelope

/-!
# Frames

Between agent and collector a payload travels in a frame: JSON text is sealed, the sealed bytes are signed,
and then they are compressed. Reading goes the other way round, so a signature covers the bytes after
sealing and before compression.
-/

namespace Telemetry

/-- A payload as it travels, and the signature that goes with it. -/
structure Frame where
  body : Bytes
  signature : Option String
  deriving DecidableEq, Repr

/-- How an agent frames payloads: the key of signatures and the key that seals, both optional. -/
structure FrameWriter where
  key : Option String := none
  sealingKey : Option PublicKey := none
  deriving DecidableEq, Repr

/-- How a collector reads frames: the key of signatures and the key that opens, both optional. -/
structure FrameReader where
  key : Option String := none
  openingKey : Option PrivateKey := none
  deriving DecidableEq, Repr

/-- The text of the file at a path that is to hold a key. -/
def Disk.readKey (disk : Disk) (path : String) : Except PayloadError Bytes :=
  match disk.readText path with
  | .ok text => .ok (Text.utf8 text)
  | .error cause => .error (.keyFile path cause)

/-- The public key in the file at a path, if there is a path. -/
def PublicKey.load (disk : Disk) : Option String → Except PayloadError (Option PublicKey)
  | none => .ok none
  | some path =>
    match disk.readKey path with
    | .error cause => .error cause
    | .ok text =>
      match ofPem? text with
      | some key => .ok (some key)
      | none => .error .noKey

/-- The private key in the file at a path, if there is a path. -/
def PrivateKey.load (disk : Disk) : Option String → Except PayloadError (Option PrivateKey)
  | none => .ok none
  | some path =>
    match disk.readKey path with
    | .error cause => .error cause
    | .ok text =>
      match ofPem? text with
      | some key => .ok (some key)
      | none => .error .noKey

namespace FrameWriter

/-- Seals a payload, if there is a key. -/
def sealPayload (writer : FrameWriter) (entropy : Entropy) (payload : Bytes) :
    Except PayloadError Bytes :=
  match writer.sealingKey with
  | none => .ok payload
  | some key =>
    match Envelope.seal? key entropy payload with
    | some sealed => .ok sealed
    | none => .error .messageTooLong

/-- The frame of a payload. -/
def frame (writer : FrameWriter) (entropy : Entropy) (payload : Bytes) : Except PayloadError Frame :=
  (writer.sealPayload entropy payload).map fun sealed =>
    ⟨Gzip.pack sealed, Signature.sign sealed writer.key⟩

end FrameWriter

namespace FrameReader

/-- Opens a sealed payload, if there is a key. -/
def openPayload (reader : FrameReader) (sealed : Bytes) : Except PayloadError Bytes :=
  match reader.openingKey with
  | none => .ok sealed
  | some key =>
    if Envelope.isWhole key sealed then
      match Envelope.open? key sealed with
      | some payload => .ok payload
      | none => .error .foreignBlock
    else
      .error (.partialBlock sealed.length key.publicKey.size)

/-- The bytes that were sealed and signed. -/
def unpacked (body : Bytes) (compressed : Bool) : Except PayloadError Bytes :=
  if compressed then
    match Gzip.unpack? body with
    | some sealed => .ok sealed
    | none => .error .decompression
  else
    .ok body

/-- The payload in a frame. -/
def payload (reader : FrameReader) (body : Bytes) (compressed : Bool) (signature : Option String) :
    Except PayloadError Bytes := do
  let sealed ← unpacked body compressed
  Signature.verify sealed reader.key signature
  reader.openPayload sealed

/-- What a reader makes of a payload, if anything. -/
def decode {Datum : Type} (ofBytes? : Bytes → Option Datum) (payload : Bytes) :
    Except PayloadError Datum :=
  match ofBytes? payload with
  | some datum => .ok datum
  | none => .error .malformed

/-- The record in a frame. -/
def record (reader : FrameReader) (body : Bytes) (compressed : Bool) (signature : Option String) :
    Except PayloadError Record :=
  (reader.payload body compressed signature).bind (decode Record.ofBytes?)

/-- The list of records in a frame. -/
def records (reader : FrameReader) (body : Bytes) (compressed : Bool) (signature : Option String) :
    Except PayloadError (List Record) :=
  (reader.payload body compressed signature).bind (decode Record.batchOfBytes?)

end FrameReader

end Telemetry
