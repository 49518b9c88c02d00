import Telemetry.Digest.Hmac
import Telemetry.Payload.Error
import Telemetry.Text.Blank
import Telemetry.Text.Hex

/-!
# Signatures

A payload is signed by its keyed digest in hexadecimal. Without a key, or with an empty one, nothing is
signed and nothing is checked. A payload that carries no signature, a blank one or the word `none` passes:
signing is up to the sender.
-/

namespace Telemetry.Signature

/-- The signature that says that there is none. -/
def absent : String := "none"

/-- The key to sign with, if there is one. -/
def usableKey (key : Option String) : Option String :=
  key.filter (· != "")

/-- The signature of a payload, if there is a key. -/
def sign (payload : Bytes) (key : Option String) : Option String :=
  (usableKey key).map fun key => Hex.text (Hmac.mac (Text.utf8 key) payload)

/-- Checks the signature of a payload, if there is a key and a signature. -/
def verify (payload : Bytes) (key signature : Option String) : Except PayloadError Unit :=
  match usableKey key, signature.map Text.trim with
  | none, _ => .ok ()
  | _, none => .ok ()
  | some key, some signature =>
    if signature = "" ∨ signature = absent then
      .ok ()
    else
      match Hex.decode? (Text.utf8 signature) with
      | none => .error .malformedSignature
      | some claimed =>
        if claimed = Hmac.mac (Text.utf8 key) payload then .ok () else .error .signatureMismatch

end Telemetry.Signature
