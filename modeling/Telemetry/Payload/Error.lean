import Telemetry.Disk

/-!
# Failures of payloads
-/

namespace Telemetry

/-- Why a payload could not be framed or read, or a key for it not be loaded. -/
inductive PayloadError
  | malformed
  | compression (cause : IoError)
  | decompression
  | malformedSignature
  | signatureMismatch
  | keyFile (path : String) (cause : IoError)
  | keyFormat (reason : String)
  | messageTooLong
  | decryption (reason : String)
  deriving DecidableEq, Repr

namespace PayloadError

/-- The wording of a failure. -/
def message : PayloadError → String
  | malformed => "failed to serialize payload: <json error>"
  | compression cause => "compression failed: " ++ cause.message
  | decompression => "decompression failed: <gzip error>"
  | malformedSignature => "signature header is not valid hex"
  | signatureMismatch => "signature does not match payload"
  | keyFile path cause => "failed to read key file " ++ path ++ ": " ++ cause.message
  | keyFormat reason => "failed to parse key: " ++ reason
  | messageTooLong => "encryption failed: message too long"
  | decryption reason => "decryption failed: " ++ reason

/-- The wordings of the failures behind a failure. -/
def causes : PayloadError → List String
  | malformed => ["<json error>"]
  | compression cause => [cause.message]
  | decompression => ["<gzip error>"]
  | keyFile _ cause => [cause.message]
  | messageTooLong => ["message too long"]
  | _ => []

/-- A payload that is not made of whole blocks. -/
def partialBlock (length blockSize : Nat) : PayloadError :=
  decryption ("ciphertext length " ++ toString length ++ " is not a multiple of the " ++
    toString blockSize ++ "-byte block size")

/-- A block that was not sealed for the key. -/
def foreignBlock : PayloadError :=
  decryption "decryption error"

/-- A file that holds no key. -/
def noKey : PayloadError :=
  keyFormat "no key of a known form"

end PayloadError

end Telemetry
