import Telemetry.Agent.Sender
import Telemetry.Collector.Command
import Telemetry.Proofs.Http.Headers
import Telemetry.Proofs.Net.Url
import Telemetry.Proofs.Number.Text

/-!
# The messages of a sender

What a sender puts into the headers of a message is what a collector looks for in them: a compressed body of
JSON with its own length declared, the signature of the frame, and the address of the sender's machine. The
path of the message is the one it is for, if the address of the collector is a scheme, a host and a port.
-/

namespace Telemetry

namespace Headers

theorem values_append (first second : Headers) (name : String) :
    values (first ++ second) name = first.values name ++ second.values name := by
  rw [values, List.filter_append, List.map_append]
  rfl

/-- The values of a header that is there or not. -/
theorem values_optional (header : String) (text : Option String) (name : String) :
    values (text.map fun text => (header, Text.utf8 text)).toList name =
      if sameName header name then (text.map Text.utf8).toList else [] := by
  cases text with
  | none => simp [values]
  | some text => by_cases same : sameName header name <;> simp [values, same]

end Headers

namespace Sender

/-- The headers that go with every frame. -/
def commonHeaders : Headers :=
  [("content-encoding", Text.utf8 "gzip"), ("content-type", Text.utf8 ContentType.json.text)]

variable (sender : Sender) (frame : Frame) (body : Bytes)

theorem values_headers (name : String) :
    ((sender.headers frame).declaring body).values name =
      commonHeaders.values name ++
        (if sameName Protocol.addressHeader name then (sender.origin.map Text.utf8).toList else []) ++
        (if sameName Protocol.signatureHeader name then (frame.signature.map Text.utf8).toList else []) ++
        (if sameName "content-length" name then [Text.utf8 (toString body.length)] else []) := by
  rw [Headers.declaring, headers, Headers.values_append, Headers.values_append, Headers.values_append,
    Headers.values_optional, Headers.values_optional]
  by_cases same : sameName "content-length" name <;> simp [Headers.values, commonHeaders, same]

/-- No name but that of its own header finds the address, the signature or the length. -/
theorem values_headers_of_ne {name : String} (notAddress : sameName Protocol.addressHeader name = false)
    (notSignature : sameName Protocol.signatureHeader name = false)
    (notLength : sameName "content-length" name = false) :
    ((sender.headers frame).declaring body).values name = commonHeaders.values name := by
  simp [values_headers, notAddress, notSignature, notLength]

theorem allowsType_headers_eq (expected : String) :
    ((sender.headers frame).declaring body).allowsType expected =
      sameName (Headers.beforeParameters ContentType.json.text.toList) expected := by
  have values : ((sender.headers frame).declaring body).values "content-type" =
      [Text.utf8 ContentType.json.text] :=
    values_headers_of_ne sender frame body (by decide) (by decide) (by decide)
  have visible : Text.IsVisible ContentType.json.text := by simp [Text.IsVisible, ContentType.text]
  rw [Headers.allowsType, Headers.first?, values, List.head?_cons]
  dsimp only
  rw [Headers.text?_utf8 visible, Option.any_some]

/-- The body is JSON. -/
theorem allowsType_headers :
    ((sender.headers frame).declaring body).allowsType "application/json" = true := by
  rw [allowsType_headers_eq]
  decide

/-- The body is compressed. -/
theorem isGzipped_headers : ((sender.headers frame).declaring body).isGzipped = true := by
  have values : ((sender.headers frame).declaring body).values "content-encoding" = [Text.utf8 "gzip"] :=
    values_headers_of_ne sender frame body (by decide) (by decide) (by decide)
  have visible : Text.IsVisible "gzip" := by simp [Text.IsVisible]
  rw [Headers.isGzipped, Headers.lists, values, List.any_cons, Headers.text?_utf8 visible]
  decide

/-- The length of the body is found again, if it is that of a body that is not too long. -/
theorem checkDeclaredLength_headers (short : body.length ≤ Gate.longestBody) :
    Gate.checkDeclaredLength ((sender.headers frame).declaring body) Gate.longestBody = .ok () := by
  have values : ((sender.headers frame).declaring body).values "content-length" =
      [Text.utf8 (toString body.length)] := by
    rw [values_headers, if_neg (by decide), if_neg (by decide), if_pos (by decide)]
    rfl
  have isWord : body.length < wordLimit :=
    lt_of_le_of_lt short (show Gate.longestBody < wordLimit by decide)
  unfold Gate.checkDeclaredLength
  rw [Headers.first?, values, List.head?_cons]
  dsimp only
  rw [Headers.text?_utf8 (isVisible_toString _), Option.bind_some, boundedNatural?_toString isWord]
  exact if_neg (Nat.not_lt.2 short)

/-- The signature is found again. -/
theorem firstText?_signatureHeader
    (visible : ∀ signature, frame.signature = some signature → Text.IsVisible signature) :
    ((sender.headers frame).declaring body).firstText? Protocol.signatureHeader = frame.signature := by
  have values : ((sender.headers frame).declaring body).values Protocol.signatureHeader =
      (frame.signature.map Text.utf8).toList := by
    rw [values_headers, if_neg (by decide), if_pos (by decide), if_neg (by decide), List.append_nil]
    rfl
  rw [Headers.firstText?, Headers.first?, values]
  cases signed : frame.signature with
  | none => rfl
  | some signature => exact Headers.text?_utf8 (visible signature signed)

/-- The address is found again. -/
theorem firstText?_addressHeader
    (visible : ∀ address, sender.origin = some address → Text.IsVisible address) :
    ((sender.headers frame).declaring body).firstText? Protocol.addressHeader = sender.origin := by
  have values : ((sender.headers frame).declaring body).values Protocol.addressHeader =
      (sender.origin.map Text.utf8).toList := by
    rw [values_headers, if_pos (by decide), if_neg (by decide), if_neg (by decide), List.append_nil,
      List.append_nil]
    rfl
  rw [Headers.firstText?, Headers.first?, values]
  cases known : sender.origin with
  | none => rfl
  | some address => exact Headers.text?_utf8 (visible address known)

/-! ## Paths -/

/-- Messages for a path ask for this path at some host. -/
def Reaches (sender : Sender) (path : String) : Prop :=
  ∃ url, Url.ofText? (sender.base ++ path) = some url ∧ Request.pathOf url.target = path

/-- A sender to an address that has no path of its own reaches the path of batches. -/
theorem reaches_batchPath {sender : Sender} {scheme : String} {authority : List Char}
    (isScheme : scheme = "http" ∨ scheme = "https") (plain : Url.IsPlain authority)
    (inHost : ∀ character ∈ authority, Url.endsHost character = false)
    (isBase : sender.base = scheme ++ "://" ++ String.ofList authority)
    (isUrl : (Url.ofText? sender.base).isSome) : sender.Reaches Protocol.batchPath := by
  obtain ⟨url, isUrl⟩ := Option.isSome_iff_exists.1 isUrl
  have plainPath : Url.IsPlain Protocol.batchPath.toList := by
    simp [Url.IsPlain, Protocol.batchPath, Url.isBlankOrControl]
  have extended := Url.ofText?_append_path isScheme plain inHost (isBase ▸ isUrl)
    (show Protocol.batchPath.toList.head? = some '/' from rfl) plainPath
  rw [← isBase, String.ofList_toList] at extended
  have asIs : Request.pathOf (Url.targetOf Protocol.batchPath.toList) = Protocol.batchPath := by decide
  exact ⟨_, extended, asIs⟩

example : (toCollector "http://localhost:8080/" {}).Reaches Protocol.batchPath :=
  ⟨⟨false, "localhost", 8080, Protocol.batchPath⟩, by decide⟩

end Sender

end Telemetry
