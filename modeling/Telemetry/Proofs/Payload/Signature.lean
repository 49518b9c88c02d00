import Telemetry.Proofs.Payload.Frame
import Telemetry.Proofs.Text.Hex

/-!
# Which signatures pass

A signature passes if it is the keyed digest of the sealed payload, in hexadecimal, or if there is nothing to check.
Every other one is refused before the payload is opened: what it would be opened to, or with which key, makes no
difference.
-/

namespace Telemetry

namespace Signature

variable {payload : Bytes} {key signature : Option String}

/-- What lets a payload pass with a signature: there is no key, or an empty one; there is no signature, or a blank
one, or the word for none; or the signature is the digest of the payload under the key, in any letter case. Blanks at
the ends of a signature do not count. -/
inductive Passes (payload : Bytes) : Option String → Option String → Prop
  | noKey (signature : Option String) : Passes payload none signature
  | emptyKey (signature : Option String) : Passes payload (some "") signature
  | unsigned (key : Option String) : Passes payload key none
  | blank (key : Option String) (text : String) (isBlank : Text.trim text = "") : Passes payload key (some text)
  | absent (key : Option String) (text : String) (isAbsent : Text.trim text = "none") :
    Passes payload key (some text)
  | digest (key text : String) (spells : Hex.Spells (Text.trim text) (Hmac.mac (Text.utf8 key) payload)) :
    Passes payload (some key) (some text)

/-- The refusal of a signature that is not the right one. -/
def refusal (signature : String) : PayloadError :=
  if Hex.IsHex (Text.trim signature) then .signatureMismatch else .malformedSignature

theorem passes_some_iff {key text : String} (usable : key ≠ "") :
    Passes payload (some key) (some text) ↔
      (Text.trim text = "" ∨ Text.trim text = absent) ∨
        Hex.Spells (Text.trim text) (Hmac.mac (Text.utf8 key) payload) := by
  constructor
  · intro passes
    cases passes with
    | emptyKey => exact absurd rfl usable
    | blank _ _ isBlank => exact .inl (.inl isBlank)
    | absent _ _ isAbsent => exact .inl (.inr isAbsent)
    | digest _ _ spells => exact .inr spells
  · rintro ((isBlank | isAbsent) | spells)
    · exact .blank _ text isBlank
    · exact .absent _ text isAbsent
    · exact .digest key text spells

theorem verify_some {key text : String} (usable : key ≠ "") :
    (Passes payload (some key) (some text) → verify payload (some key) (some text) = .ok ()) ∧
      (¬Passes payload (some key) (some text) →
        verify payload (some key) (some text) = .error (refusal text)) := by
  have isUsable : usableKey (some key) = some key := by simp [usableKey, usable]
  rw [verify, isUsable, passes_some_iff usable]
  dsimp only [Option.map]
  by_cases skipped : Text.trim text = "" ∨ Text.trim text = absent
  · rw [if_pos skipped]
    exact ⟨fun _ => rfl, fun fails => absurd (.inl skipped) fails⟩
  rw [if_neg skipped]
  cases decoded : Hex.decode? (Text.utf8 (Text.trim text)) with
  | none =>
    have notHex : ¬Hex.IsHex (Text.trim text) := by
      rw [← Hex.isSome_decode?_utf8_iff, decoded]
      exact Bool.false_ne_true
    refine ⟨fun passes => ?_, fun _ => by rw [refusal, if_neg notHex]⟩
    have spells := Hex.decode?_utf8_eq_some_iff.2 (passes.resolve_left skipped)
    cases decoded.symm.trans spells
  | some claimed =>
    have isHex : Hex.IsHex (Text.trim text) := by
      rw [← Hex.isSome_decode?_utf8_iff, decoded]
      rfl
    have spells_iff : Hex.Spells (Text.trim text) (Hmac.mac (Text.utf8 key) payload) ↔
        claimed = Hmac.mac (Text.utf8 key) payload := by
      rw [← Hex.decode?_utf8_eq_some_iff, decoded, Option.some.injEq]
    simp only [skipped, false_or, spells_iff, refusal, if_pos isHex]
    exact ⟨fun same => if_pos same, fun differs => if_neg differs⟩

/-- A check finds that the signature passes, or refuses it for its form. -/
theorem verify_cases (payload : Bytes) (key signature : Option String) :
    Passes payload key signature ∧ verify payload key signature = .ok () ∨
      ¬Passes payload key signature ∧
        ∃ text, signature = some text ∧ verify payload key signature = .error (refusal text) := by
  cases key with
  | none => exact .inl ⟨.noKey signature, rfl⟩
  | some key =>
    by_cases usable : key = ""
    · rw [usable]
      exact .inl ⟨.emptyKey signature, rfl⟩
    cases signature with
    | none =>
      refine .inl ⟨.unsigned _, ?_⟩
      rw [verify]
      split <;> first | rfl | contradiction
    | some text =>
      by_cases passes : Passes payload (some key) (some text)
      · exact .inl ⟨passes, (verify_some usable).1 passes⟩
      · exact .inr ⟨passes, text, rfl, (verify_some usable).2 passes⟩

theorem verify_eq_ok_iff : verify payload key signature = .ok () ↔ Passes payload key signature := by
  rcases verify_cases payload key signature with ⟨passes, verified⟩ | ⟨fails, _, _, refused⟩
  · exact iff_of_true verified passes
  · rw [refused]
    exact iff_of_false nofun fails

end Signature

namespace FrameReader

open Signature (Passes refusal)

variable {key signature : Option String} {body sealed : Bytes} {compressed : Bool}

theorem payload_eq_of_unpacked (reader : FrameReader) (unpacks : unpacked body compressed = .ok sealed) :
    reader.payload body compressed signature =
      (Signature.verify sealed reader.key signature >>= fun _ => reader.openPayload sealed) := by
  rw [payload, unpacks]
  rfl

/-- What a payload is opened to has nothing to do with its signature. -/
theorem openPayload_ne_refusal (reader : FrameReader) :
    reader.openPayload sealed ≠ .error .malformedSignature ∧
      reader.openPayload sealed ≠ .error .signatureMismatch := by
  unfold openPayload
  split
  · exact ⟨nofun, nofun⟩
  split
  · split
    · exact ⟨nofun, nofun⟩
    · exact ⟨nofun, nofun⟩
  · exact ⟨nofun, nofun⟩

/-- The signature of a frame that can be unpacked decides whether its payload is opened, whatever the private key is
and whatever the payload would be opened to: a signature that passes leaves no trace, and any other is refused as
malformed if it is not an even number of digits, and else as that of another payload. What has been signed under a key
passes under it. -/
theorem signature_decides (key signature : Option String) (unpacks : unpacked body compressed = .ok sealed) :
    (Passes sealed key signature → ∀ openingKey, let reader : FrameReader := ⟨key, openingKey⟩
      reader.payload body compressed signature = reader.openPayload sealed ∧
        reader.openPayload sealed ≠ .error .malformedSignature ∧
        reader.openPayload sealed ≠ .error .signatureMismatch) ∧
    (¬Passes sealed key signature → ∃ text, signature = some text ∧
      ∀ openingKey, let reader : FrameReader := ⟨key, openingKey⟩
        reader.payload body compressed signature =
          .error (if Hex.IsHex (Text.trim text) then .signatureMismatch else .malformedSignature)) ∧
    ∀ payload, Signature.verify payload key (Signature.sign payload key) = .ok () := by
  refine ⟨fun passes openingKey => ?_, fun fails => ?_, fun payload => Signature.verify_sign rfl⟩
  · refine ⟨?_, openPayload_ne_refusal _⟩
    rw [payload_eq_of_unpacked _ unpacks, Signature.verify_eq_ok_iff.2 passes]
    rfl
  · rcases Signature.verify_cases sealed key signature with ⟨passes, _⟩ | ⟨_, text, isText, refused⟩
    · exact absurd passes fails
    · refine ⟨text, isText, fun openingKey => ?_⟩
      dsimp only
      rw [payload_eq_of_unpacked _ unpacks, refused]
      rfl

/-- Under a key, two bytes are no digest, though they may be the first of it, and what is no hexadecimal text is
malformed, with any private key and with none. The payload passes with its own signature. -/
theorem signature_decides_truncated :
    let key := some "secret"
    let sealed : Bytes := [1, 2, 3]
    let body := Gzip.pack sealed
    let answer (signature : Option String) (openingKey : Option PrivateKey) :=
      (⟨key, openingKey⟩ : FrameReader).payload body true signature
    unpacked body true = .ok sealed ∧
      (∀ openingKey, answer (some " 00fF ") openingKey = .error .signatureMismatch) ∧
      (∀ openingKey, answer (some "0xff") openingKey = .error .malformedSignature) ∧
      answer (Signature.sign sealed key) none = .ok sealed := by
  intro key sealed body answer
  have unpacks : unpacked body true = .ok sealed := by
    simp [unpacked, body, Gzip.unpack?_pack]
  have isShort {text : String} (blank : Text.trim text ≠ "") (absent : Text.trim text ≠ "none")
      (short : (Text.trim text).length < 64) : ¬Passes sealed key (some text) := by
    rw [Signature.passes_some_iff (by decide)]
    rintro ((isBlank | isAbsent) | spells)
    · exact blank isBlank
    · exact absent isAbsent
    · have digestLength := spells.length_eq
      rw [Hmac.mac_length] at digestLength
      omega
  have signs (signature : Option String) := signature_decides key signature unpacks
  refine ⟨unpacks, fun openingKey => ?_, fun openingKey => ?_, ?_⟩
  · obtain ⟨_, isText, refused⟩ :=
      (signs (some " 00fF ")).2.1 (isShort (by decide +kernel) (by decide +kernel) (by decide +kernel))
    cases isText
    exact (refused openingKey).trans (congrArg _ (if_pos (by decide +kernel)))
  · obtain ⟨_, isText, refused⟩ :=
      (signs (some "0xff")).2.1 (isShort (by decide +kernel) (by decide +kernel) (by decide +kernel))
    cases isText
    exact (refused openingKey).trans (congrArg _ (if_neg (by decide +kernel)))
  · have passes := Signature.verify_eq_ok_iff.1 ((signs none).2.2 sealed)
    exact ((signs _).1 passes none).1

end FrameReader

end Telemetry
