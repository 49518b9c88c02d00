import Telemetry.Proofs.Collector.ReadBack
import Telemetry.Proofs.Http.Headers
import Telemetry.Proofs.Payload.Frame

/-!
# Compression does not show

A sender may take compressed answers and may send compressed bodies. Neither changes what is done or said: a
compressed answer holds the same once it is unpacked, and a compressed body is read as what it unpacks to. A
signature, on either side, is one of the bytes before compression.
-/

namespace Telemetry

/-! ## Requests and responses side by side -/

namespace Request

variable {first second : Request} {names : List String} {name : String}

/-- Two requests differ in their bodies and in the headers with some names, at most. -/
structure SameBut (names : List String) (first second : Request) : Prop where
  method : first.method = second.method
  path : first.path = second.path
  headers : first.headers.without names = second.headers.without names

/-- One more header, anywhere among the others. -/
theorem sameBut_insert {value : Bytes} (leftOut : names.any (sameName name) = true) (method path : String)
    (front back : Headers) (body otherBody : Bytes) :
    SameBut names ⟨method, path, front ++ back, body⟩ ⟨method, path, front ++ (name, value) :: back, otherBody⟩ :=
  ⟨rfl, rfl, (Headers.without_insert leftOut front back).symm⟩

theorem SameBut.values (same : SameBut names first second) (kept : names.any (sameName name) = false) :
    first.headers.values name = second.headers.values name := by
  rw [← Headers.values_without kept, same.headers, Headers.values_without kept]

/-- The length that the headers declare, if they do, is that of the body. -/
def DeclaresOwnLength (request : Request) : Prop :=
  ∀ value ∈ request.headers.first? "content-length",
    (Headers.text? value).bind (boundedNatural? wordLimit) = some request.body.length

instance (request : Request) : Decidable request.DeclaresOwnLength :=
  inferInstanceAs (Decidable (∀ _ ∈ _, _))

end Request

namespace Response

/-- A response is another one with its body compressed; an empty body stays as it is. -/
structure Packs (packed plain : Response) : Prop where
  status : packed.status = plain.status
  headers : (packed.headers.filter fun header => header.1 != "content-encoding") = plain.headers
  empty : plain.body = [] → packed = plain
  full : plain.body ≠ [] →
    ("content-encoding", "gzip") ∈ packed.headers ∧ Gzip.unpack? packed.body = some plain.body

/-- Without the header that tells the coding, a response has the headers of one that is not compressed. -/
theorem filter_headers {response plain : Response} (asItIs : plain.compressed = false)
    (sameType : response.contentType = plain.contentType) (sameSignature : response.signature = plain.signature) :
    (response.headers.filter fun header => header.1 != "content-encoding") = plain.headers := by
  let isKept (header : String × String) : Bool := header.1 != "content-encoding"
  have keepsType (type : String) : isKept ("content-type", type) = true := by simp [isKept]
  have keepsSignature (signature : String) : isKept ("hashsha256", signature) = true := by simp [isKept]
  have dropsCoding : ¬isKept ("content-encoding", "gzip") = true := by simp [isKept]
  change response.headers.filter isKept = _
  unfold headers
  rw [asItIs, sameType, sameSignature, List.filter_append, List.filter_append,
    List.filter_cons_of_pos (keepsType _), List.filter_nil]
  congr 2
  · cases response.compressed with
    | true => exact List.filter_cons_of_neg dropsCoding
    | false => rfl
  · cases plain.signature with
    | none => rfl
    | some signature => exact List.filter_cons_of_pos (keepsSignature signature)

theorem packs_compress {plain : Response} (asItIs : plain.compressed = false) : plain.compress.Packs plain := by
  unfold compress
  split
  case isTrue empty =>
    exact ⟨rfl, filter_headers asItIs rfl rfl, fun _ => rfl, fun full => absurd empty full⟩
  case isFalse full =>
    refine ⟨rfl, filter_headers asItIs rfl rfl, fun empty => absurd empty full,
      fun _ => ⟨?_, Gzip.unpack?_pack plain.body⟩⟩
    simp [headers]

theorem signature_of_mem_headers {response : Response} {signature : String}
    (listed : ("hashsha256", signature) ∈ response.headers) : response.signature = some signature := by
  unfold headers at listed
  split at listed <;> simpa [eq_comm] using listed

theorem signature_compress (response : Response) : response.compress.signature = response.signature := by
  unfold compress
  split <;> rfl

/-- Nothing but a record is signed, and it is signed as it stands in the body. -/
theorem sign_body_of_signature {key : Option String} {outcome : Except Refusal Reply} {signature : String}
    (signed : (ofOutcome key outcome).signature = some signature) :
    Signature.sign (ofOutcome key outcome).body key = some signature := by
  cases outcome with
  | error refusal => cases signed
  | ok reply =>
    cases reply with
    | record record => exact signed
    | text body | listing body | message text => cases signed

end Response

namespace Gate

variable {gate : Gate} {first second plain packed : Request}

/-! ## What is read of a request -/

theorem checkAddress_congr
    (same : first.headers.values Protocol.addressHeader = second.headers.values Protocol.addressHeader) :
    gate.checkAddress first.headers = gate.checkAddress second.headers := by
  rw [checkAddress, checkAddress, Headers.firstText?_congr same]

theorem checkType_congr (same : first.headers.values "content-type" = second.headers.values "content-type")
    (expected : String) : checkType first.headers expected = checkType second.headers expected := by
  rw [checkType, checkType, Headers.allowsType_congr same]

theorem textRecord_congr (same : first.headers.values "content-type" = second.headers.values "content-type")
    (type name raw : String) : textRecord first.headers type name raw = textRecord second.headers type name raw := by
  rw [textRecord, textRecord, checkType_congr same]

/-- What is asked for depends on the method, the path, the records that are read from the body, and two headers. -/
theorem command_congr (sameMethod : first.method = second.method) (samePath : first.path = second.path)
    (sameAddress : first.headers.values Protocol.addressHeader = second.headers.values Protocol.addressHeader)
    (sameType : first.headers.values "content-type" = second.headers.values "content-type")
    (sameRecord : body gate.reader.record first = body gate.reader.record second)
    (sameRecords : body gate.reader.records first = body gate.reader.records second) :
    gate.command first = gate.command second := by
  unfold command
  simp only [sameMethod, samePath, checkAddress_congr sameAddress, textRecord_congr sameType, sameRecord,
    sameRecords]

/-! ## Compressed answers -/

/-- Nothing but the answer's coding depends on the codings that the sender takes. -/
theorem command_of_sameBut_acceptEncoding (gate : Gate) (same : first.SameBut ["accept-encoding"] second)
    (sameBody : first.body = second.body) : gate.command first = gate.command second := by
  have sameType : first.headers.values "content-type" = second.headers.values "content-type" :=
    same.values (by decide)
  have sameRead {Datum : Type} (read : Bytes → Bool → Option String → Except PayloadError Datum) :
      body read first = body read second := by
    have sameCoding : first.headers.isGzipped = second.headers.isGzipped :=
      Headers.lists_congr (same.values (by decide)) "gzip"
    have sameSignature : first.headers.firstText? Protocol.signatureHeader =
        second.headers.firstText? Protocol.signatureHeader :=
      Headers.firstText?_congr (same.values (by decide))
    have sameLength : checkDeclaredLength first.headers longestBody =
        checkDeclaredLength second.headers longestBody := by
      rw [checkDeclaredLength, checkDeclaredLength, Headers.first?_congr (same.values (by decide))]
    rw [body, body, checkType_congr sameType, sameLength, sameBody, sameCoding, sameSignature]
  exact command_congr same.method same.path (same.values (by decide)) sameType (sameRead _) (sameRead _)

theorem handle_eq_of_acceptsGzip {World : Type} {backend : Backend World} {world : World}
    (takesIt : second.headers.acceptsGzip = true) (notAsked : first.headers.acceptsGzip = false)
    (sameCommand : gate.command first = gate.command second) :
    gate.handle backend second world =
      ((gate.handle backend first world).1.compress, (gate.handle backend first world).2) := by
  have sameServed : gate.serve backend second = gate.serve backend first := by
    rw [serve, serve, sameCommand]
  unfold handle
  dsimp only
  rw [takesIt, notAsked, sameServed]
  rfl

theorem compressed_handle {World : Type} {backend : Backend World} {world : World}
    (notAsked : first.headers.acceptsGzip = false) : (gate.handle backend first world).1.compressed = false := by
  unfold handle
  dsimp only
  rw [notAsked]
  exact Response.compressed_ofOutcome _ _

/-- A signature in the headers of an answer is that of what the body holds. -/
theorem exists_content_of_signature {World : Type} {backend : Backend World} {request : Request} {world : World}
    {signature : String} (listed : ("hashsha256", signature) ∈ (gate.handle backend request world).1.headers) :
    ∃ content, (gate.handle backend request world).1.content? = some content ∧
      Signature.sign content gate.reader.key = some signature := by
  refine ⟨_, content?_handle gate backend request world, Response.sign_body_of_signature ?_⟩
  have signed := Response.signature_of_mem_headers listed
  unfold handle at signed
  dsimp only at signed
  split at signed
  · rwa [Response.signature_compress] at signed
  · exact signed

/-! ## Compressed bodies -/

theorem checkDeclaredLength_of_declaresOwnLength {request : Request} (declared : request.DeclaresOwnLength)
    (fits : request.body.length ≤ longestBody) : checkDeclaredLength request.headers longestBody = .ok () := by
  unfold checkDeclaredLength
  split
  · rfl
  case h_2 value found =>
    rw [declared value found]
    exact if_neg (Nat.not_lt.2 fits)

/-- What is read from a body depends on the bytes that it unpacks to. -/
theorem payload_congr (reader : FrameReader) {plainBody packedBody : Bytes}
    (unpacks : Gzip.unpack? packedBody = some plainBody) (signature : Option String) :
    reader.payload packedBody true signature = reader.payload plainBody false signature := by
  have same : FrameReader.unpacked packedBody true = FrameReader.unpacked plainBody false := by
    simp [FrameReader.unpacked, unpacks]
  rw [FrameReader.payload, FrameReader.payload, same]

/-- A body is read alike, compressed or not. -/
theorem command_of_unpacks (same : plain.SameBut ["content-encoding", "content-length"] packed)
    (asItIs : plain.headers.isGzipped = false) (gzipped : packed.headers.isGzipped = true)
    (unpacks : Gzip.unpack? packed.body = some plain.body)
    (fits : plain.body.length ≤ longestBody ∧ packed.body.length ≤ longestBody)
    (declared : plain.DeclaresOwnLength ∧ packed.DeclaresOwnLength) :
    gate.command packed = gate.command plain := by
  have sameType : plain.headers.values "content-type" = packed.headers.values "content-type" :=
    same.values (by decide)
  have sameSignature : plain.headers.firstText? Protocol.signatureHeader =
      packed.headers.firstText? Protocol.signatureHeader :=
    Headers.firstText?_congr (same.values (by decide))
  have sameLength : checkLength packed.body = checkLength plain.body := by
    rw [checkLength, checkLength, if_neg (Nat.not_lt.2 fits.1), if_neg (Nat.not_lt.2 fits.2)]
  have sameRead {Datum : Type} {read : Bytes → Bool → Option String → Except PayloadError Datum}
      (readAlike : ∀ signature, read packed.body true signature = read plain.body false signature) :
      body read packed = body read plain := by
    rw [body, body, checkType_congr sameType, checkDeclaredLength_of_declaresOwnLength declared.1 fits.1,
      checkDeclaredLength_of_declaresOwnLength declared.2 fits.2, sameLength, asItIs, gzipped, sameSignature,
      readAlike]
  refine command_congr same.method.symm same.path.symm (same.values (by decide)).symm sameType.symm
    (sameRead fun signature => ?_) (sameRead fun signature => ?_)
  · rw [FrameReader.record, FrameReader.record, payload_congr _ unpacks]
  · rw [FrameReader.records, FrameReader.records, payload_congr _ unpacks]

theorem handle_of_sameCommand {World : Type} {backend : Backend World} {world : World}
    (sameCommand : gate.command first = gate.command second)
    (sameCoding : first.headers.acceptsGzip = second.headers.acceptsGzip) :
    gate.handle backend first world = gate.handle backend second world := by
  have sameServed : gate.serve backend first = gate.serve backend second := by
    rw [serve, serve, sameCommand]
  unfold handle
  rw [sameServed, sameCoding]

/-! ## Both -/

/-- Whatever a collector is asked, and whatever it has stored: if the sender takes compressed answers, the same is
done and logged, and the answer is the same with its body compressed, unless that is empty. A signature is that of
the body before compression. A compressed body is answered as what it unpacks to, with all that is done, as long as
neither is too long and no other length is declared. -/
theorem compression_is_transparent {World : Type} (gate : Gate) (backend : Backend World) (world : World) :
    (∀ plain accepting : Request, plain.SameBut ["accept-encoding"] accepting → plain.body = accepting.body →
      plain.headers.acceptsGzip = false → accepting.headers.acceptsGzip = true →
      (gate.handle backend accepting world).1.Packs (gate.handle backend plain world).1 ∧
        (gate.handle backend accepting world).2 = (gate.handle backend plain world).2) ∧
    (∀ request signature, ("hashsha256", signature) ∈ (gate.handle backend request world).1.headers →
      ∃ content, (gate.handle backend request world).1.content? = some content ∧
        Signature.sign content gate.reader.key = some signature) ∧
    ∀ plain packed : Request, plain.SameBut ["content-encoding", "content-length"] packed →
      plain.headers.isGzipped = false → packed.headers.isGzipped = true →
      Gzip.unpack? packed.body = some plain.body →
      plain.body.length ≤ longestBody ∧ packed.body.length ≤ longestBody →
      plain.DeclaresOwnLength ∧ packed.DeclaresOwnLength →
      gate.handle backend packed world = gate.handle backend plain world := by
  refine ⟨?_, fun request signature => exists_content_of_signature, ?_⟩
  · intro plain accepting same sameBody notAsked takesIt
    have sameCommand := command_of_sameBut_acceptEncoding gate same sameBody
    rw [handle_eq_of_acceptsGzip takesIt notAsked sameCommand]
    exact ⟨Response.packs_compress (compressed_handle notAsked), rfl⟩
  · intro plain packed same asItIs gzipped unpacks fits declared
    exact handle_of_sameCommand (command_of_unpacks same asItIs gzipped unpacks fits declared)
      (Headers.lists_congr (same.values (by decide)) "gzip").symm

/-- Under a key, a gauge is sent as it is, compressed, and to be answered compressed. It is stored all three times;
the compressed answer carries the signature of what it unpacks to. -/
theorem compression_is_transparent_signed :
    let gate : Gate := ⟨⟨some "secret", none⟩, none⟩
    let record := Record.gauge "Alloc" ⟨0x3ff8000000000000⟩
    let plainHeaders : Headers := [("Content-Length", Text.utf8 "41")]
    let plain : Request := ⟨"POST", "/update/", plainHeaders, record.bytes⟩
    let accepting : Request :=
      ⟨"POST", "/update/", plainHeaders ++ [("Accept-Encoding", Text.utf8 "br, gzip")], record.bytes⟩
    let packed : Request :=
      ⟨"POST", "/update/", [("content-encoding", Text.utf8 "gzip"), ("content-length", Text.utf8 "57")],
        [0x1f, 0x8b, 0x08, 0x00, 0x00, 0x00, 0x00, 0x00, 0x02, 0xff, 0xab, 0x56, 0xca, 0x4c, 0x51, 0xb2, 0x52, 0x72,
          0xcc, 0xc9, 0xc9, 0x4f, 0x56, 0xd2, 0x51, 0x2a, 0xa9, 0x2c, 0x48, 0x05, 0x72, 0xd3, 0x13, 0x4b, 0xd3, 0x53,
          0x81, 0xdc, 0xb2, 0xc4, 0x9c, 0x52, 0x20, 0xdf, 0x50, 0xcf, 0xb4, 0x16, 0x00, 0xde, 0x52, 0x3e, 0xd9, 0x29,
          0x00, 0x00, 0x00]⟩
    let answer (request : Request) :=
      gate.handle MemoryStorage.backend request (MemoryStorage.fresh none Disk.empty)
    (answer plain).1.status = 200 ∧
      (answer plain).2.1.store.get? .gauge "Alloc" = some (.gauge ⟨0x3ff8000000000000⟩) ∧
      (answer accepting).1.Packs (answer plain).1 ∧ (answer accepting).2 = (answer plain).2 ∧
      (∃ signature content, ("hashsha256", signature) ∈ (answer accepting).1.headers ∧
        (answer accepting).1.content? = some content ∧ Signature.sign content gate.reader.key = some signature) ∧
      answer packed = answer plain := by
  intro gate record plainHeaders plain accepting packed answer
  obtain ⟨answers, signatures, bodies⟩ :=
    compression_is_transparent gate MemoryStorage.backend (MemoryStorage.fresh none Disk.empty)
  obtain ⟨packs, sameEffect⟩ :=
    answers plain accepting
      (Request.sameBut_insert (by decide) "POST" "/update/" plainHeaders [] record.bytes record.bytes) rfl
      (by decide +kernel) (by decide +kernel)
  have sameAnswer : answer packed = answer plain :=
    bodies plain packed ⟨rfl, rfl, by decide +kernel⟩ (by decide +kernel) (by decide +kernel) (by decide +kernel)
      (by decide +kernel) (by decide +kernel)
  have done : (answer plain).1.status = 200 := by decide +kernel
  have stored : (answer plain).2.1.store.get? .gauge "Alloc" = some (.gauge ⟨0x3ff8000000000000⟩) := by
    decide +kernel
  have isSigned : (answer plain).1.signature.isSome = true := by decide +kernel
  obtain ⟨signature, signed⟩ := Option.isSome_iff_exists.1 isSigned
  have listed : ("hashsha256", signature) ∈ (answer accepting).1.headers := by
    refine List.mem_of_mem_filter (p := fun header => header.1 != "content-encoding") ?_
    have isListed : ("hashsha256", signature) ∈ (answer plain).1.headers := by
      simp [Response.headers, signed]
    exact packs.headers ▸ isListed
  obtain ⟨content, holds, signs⟩ := signatures accepting signature listed
  exact ⟨done, stored, packs, sameEffect, ⟨signature, content, listed, holds, signs⟩, sameAnswer⟩

end Gate

end Telemetry
