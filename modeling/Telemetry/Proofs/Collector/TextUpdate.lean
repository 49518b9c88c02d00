import Telemetry.Proofs.Collector.Compression
import Telemetry.Proofs.Metric.Text

/-!
# Updates as text and as JSON

The parts of an update can stand in the path of a request, as texts, or in its body, as a record. Texts that make no
record are refused, and nothing happens. Texts that make one are answered, and do, as that record would as JSON. What
a collector shows of a gauge is such a text: whoever sends it back changes nothing.
-/

namespace Telemetry

open MemoryStorage (backend)

namespace Gate

variable {gate : Gate} {type name raw : String} {record : Record} {request textRequest jsonRequest : Request}
  {storage : MemoryStorage}

/-! ## The path of an update -/

/-- The path at which a metric is updated by texts. -/
def updatePath (type name raw : String) : String :=
  "/update/" ++ type ++ "/" ++ name ++ "/" ++ raw

/-- The longest path that a request has room for, in bytes. -/
def longestPath : Nat := 65534

theorem segments_updatePath_eq (nameFits : '/' ∉ name.toList) (rawFits : '/' ∉ raw.toList) :
    segments (updatePath type name raw) =
      "update" :: ((Text.pieces '/' type.toList).map String.ofList ++ [name, raw]) := by
  have noSlashes : (updatePath type name raw).toList.dropWhile (· == '/') =
      "update".toList ++ '/' :: (type.toList ++ '/' :: (name.toList ++ '/' :: raw.toList)) := by
    simp [updatePath]
  rw [segments, noSlashes, Text.pieces_append_cons (by decide), Text.pieces_append_separator,
    Text.pieces_append_cons nameFits, Text.pieces_of_not_mem rawFits]
  simp

theorem segments_updatePath (typeFits : '/' ∉ type.toList) (nameFits : '/' ∉ name.toList)
    (rawFits : '/' ∉ raw.toList) : segments (updatePath type name raw) = ["update", type, name, raw] := by
  rw [segments_updatePath_eq nameFits rawFits, Text.pieces_of_not_mem typeFits]
  simp

/-- A request that updates a metric by texts, with nothing said against text. -/
structure SendsText (type name raw : String) (request : Request) : Prop where
  method : request.method = "POST"
  path : request.path = updatePath type name raw
  allowed : request.headers.allowsType "text/plain" = true

/-- A request that updates a metric by a record as JSON, as it is. -/
structure SendsRecord (record : Record) (request : Request) : Prop where
  posts : PostsTo "update" request
  body : request.body = record.bytes
  allowed : request.headers.allowsType "application/json" = true
  asItIs : request.headers.isGzipped = false
  declared : request.DeclaresOwnLength

theorem command_of_sendsText (sends : SendsText type name raw request) (typeFits : '/' ∉ type.toList)
    (nameFits : '/' ∉ name.toList) (rawFits : '/' ∉ raw.toList) :
    gate.command request = (textRecord request.headers type name raw).map .set := by
  simp only [command, sends.method, sends.path, segments_updatePath typeFits nameFits rawFits]

theorem textRecord_of_ofText (sends : SendsText type name raw request)
    (made : Record.ofText type name raw = .ok record) : textRecord request.headers type name raw = .ok record := by
  obtain ⟨named, _⟩ := Record.ofText_eq_ok_iff.1 made
  rw [textRecord, checkType, if_pos sends.allowed, made]
  change (if name = "" then _ else _) = _
  rw [if_neg named]
  rfl

/-- A path with more parts than an update has is that of no route. -/
theorem command_of_divided_type (sends : SendsText type name raw request) (divided : '/' ∈ type.toList)
    (nameFits : '/' ∉ name.toList) (rawFits : '/' ∉ raw.toList) :
    gate.command request = .error (.noRoute request.path) := by
  obtain ⟨first, second, others, isDivided⟩ := Text.exists_pieces_of_mem divided
  have fiveParts : ∃ third fourth rest, segments request.path =
      "update" :: String.ofList first :: String.ofList second :: third :: fourth :: rest := by
    rw [sends.path, segments_updatePath_eq nameFits rawFits, isDivided]
    rcases others with _ | ⟨third, _ | ⟨fourth, others⟩⟩
    · exact ⟨_, _, _, rfl⟩
    · exact ⟨_, _, _, rfl⟩
    · exact ⟨_, _, _, rfl⟩
  obtain ⟨third, fourth, rest, parts⟩ := fiveParts
  simp only [command, sends.method, parts]
  simp [unrouted]

/-- Texts that make no record are refused for what the sender got wrong. -/
theorem exists_refusal_of_ofText (gate : Gate) {cause : ValidationError}
    (sends : SendsText type name raw request) (fails : Record.ofText type name raw = .error cause)
    (nameFits : '/' ∉ name.toList) (rawFits : '/' ∉ raw.toList) :
    ∃ refusal, gate.command request = .error refusal ∧ (refusal.status = 400 ∨ refusal.status = 404) := by
  by_cases divided : '/' ∈ type.toList
  · exact ⟨_, command_of_divided_type sends divided nameFits rawFits, .inr rfl⟩
  · rw [command_of_sendsText sends divided nameFits rawFits, textRecord, checkType, if_pos sends.allowed, fails]
    by_cases named : name = ""
    · exact ⟨.missingName, by rw [named]; rfl, .inr rfl⟩
    · refine ⟨.service (.validation cause), ?_, .inl rfl⟩
      change ((if name = "" then _ else _) : Except Refusal Record).map _ = _
      rw [if_neg named]
      rfl

/-! ## The record as JSON -/

/-- A record is read from a body that holds it, if nothing is to be checked or opened. -/
theorem body_of_sendsRecord (sends : SendsRecord record request) (finite : record.IsFinite)
    (short : record.bytes.length ≤ longestBody) : body ({} : FrameReader).record request = .ok record := by
  have length : checkLength request.body = .ok () := by
    rw [checkLength, if_neg (Nat.not_lt.2 (sends.body ▸ short))]
  have read (signature : Option String) : ({} : FrameReader).record request.body false signature = .ok record := by
    have payload : ({} : FrameReader).payload request.body false signature = .ok record.bytes := by
      rw [sends.body]
      rfl
    rw [FrameReader.record, payload, Except.bind, FrameReader.decode, Record.ofBytes?_bytes finite]
  have declared := checkDeclaredLength_of_declaresOwnLength sends.declared (sends.body ▸ short)
  rw [body, checkType, if_pos sends.allowed, declared, length, sends.asItIs, read]
  rfl

theorem command_of_sendsRecord (sends : SendsRecord record request) (finite : record.IsFinite)
    (short : record.bytes.length ≤ longestBody) : ({} : Gate).command request = .ok (.update record) := by
  rw [command_update sends.posts, body_of_sendsRecord sends finite short]
  rfl

/-- The record of a value whose name a path has room for is short enough for a body. -/
theorem length_bytes_le_longestBody (value : Value)
    (path : (Text.utf8 (updatePath type name raw)).length ≤ longestPath) :
    (Record.ofValue name value).bytes.length ≤ longestBody := by
  have bytes := Record.length_bytes_ofValue_le name value
  have nameLength : (Text.utf8 name).length ≤ (Text.utf8 (updatePath type name raw)).length := by
    simp only [updatePath, Text.utf8_append, List.length_append]
    omega
  unfold longestPath at path
  unfold longestBody
  omega

/-- An update does the same and ends the same, whether the record that is stored then is wanted or not. -/
theorem handle_set_update {World : Type} {backend : Backend World}
    (sets : gate.command textRequest = .ok (.set record))
    (updates : gate.command jsonRequest = .ok (.update record)) (world : World) :
    (gate.handle backend textRequest world).1.status = (gate.handle backend jsonRequest world).1.status ∧
      (gate.handle backend textRequest world).2.1 = (gate.handle backend jsonRequest world).2.1 := by
  let updated := (Service.update backend record).mapCause Refusal.service world
  have textServed : gate.serve backend textRequest world =
      ⟨updated.result.map fun _ => .text "", updated.world, updated.log⟩ := by
    rw [serve_of_command sets]
    exact Action.bind_pure_apply _ _ world
  have jsonServed : gate.serve backend jsonRequest world =
      ⟨updated.result.map .record, updated.world, updated.log⟩ := by
    rw [serve_of_command updates]
    exact Action.bind_pure_apply _ _ world
  constructor
  · rw [status_handle, status_handle, textServed, jsonServed]
    cases updated.result <;> rfl
  · unfold handle
    rw [textServed, jsonServed]

/-- A request is refused for itself, and nothing happens. -/
theorem handle_of_refusal {World : Type} {refusal : Refusal} (refused : gate.command request = .error refusal)
    (backend : Backend World) (world : World) :
    (gate.handle backend request world).1.status = refusal.status ∧
      (gate.handle backend request world).2.1 = world := by
  have served : gate.serve backend request = .fail refusal := by rw [serve, refused]
  constructor
  · rw [status_handle, served]
    rfl
  · unfold handle
    rw [served]
    rfl

/-! ## Sending back what is shown -/

theorem handle_set_of_updateRecord {next : Store} (sets : gate.command request = .ok (.set record))
    (updated : storage.store.updateRecord record = .ok next) :
    (gate.handle backend request storage).1.status = 200 ∧
      (gate.handle backend request storage).2.1 = storage.settle (.ok next) := by
  obtain ⟨stored, taken, sameWorld⟩ := Service.update_of_ok updated
  have served : gate.serve backend request storage =
      ⟨.ok (.text ""), storage.settle (.ok next),
        ((Service.update backend record).mapCause Refusal.service storage).log⟩ := by
    rw [serve_of_command sets]
    refine (Action.bind_pure_apply _ _ storage).trans ?_
    rw [Action.mapCause, taken, sameWorld]
    rfl
  constructor
  · rw [status_handle, served]
    rfl
  · unfold handle
    rw [served]

/-- The record of a gauge as it is stored changes nothing. -/
theorem updateRecord_of_get? {store : Store} {reading : Binary64} (named : name ≠ "")
    (finite : reading.isFinite = true) (held : store.get? .gauge name = some (.gauge reading)) :
    store.updateRecord (.gauge name reading) = .ok store := by
  have stays : ∀ shown, Value.gauge reading = .gauge shown → shown.isFinite = true := by
    rintro _ ⟨⟩
    exact finite
  have valid : (Record.gauge name reading).validate = .ok (.gauge reading) := Record.validate_ofValue named stays
  have isHeld : store.gauges.get? name = some reading := by
    simpa [Store.get?] using held
  have unchanged : store.gauges.insert name reading = store.gauges := Roster.insert_of_get? isHeld
  rw [Store.updateRecord, valid]
  exact Store.setGauge_eq_ok_iff.2 ⟨finite, congrArg (Store.mk · store.counters) unchanged⟩

theorem slash_notMem_text {reading : Binary64} (finite : reading.isFinite = true) : '/' ∉ reading.text.toList := by
  intro listed
  rcases Binary64.mem_text finite listed with isDigit | isMark
  · cases isDigit
  · revert isMark
    decide

/-- What is shown of a gauge can be sent back to it, and changes nothing. -/
theorem sends_back {reading : Binary64} {asking sending : Request} (named : name ≠ "") (fits : FitsPath name)
    (finite : storage.store.IsFinite) (held : storage.store.get? .gauge name = some (.gauge reading))
    (get : asking.method = "GET") (path : asking.path = Request.pathOf (valuePath .gauge name))
    (sends : SendsText Kind.gauge.name name reading.text sending) :
    (gate.handle backend asking storage).1.status = 200 ∧
      (gate.handle backend asking storage).1.content? = some (Text.utf8 reading.text) ∧
      (gate.handle backend sending storage).1.status = 200 ∧
      (gate.handle backend sending storage).2.1.store = storage.store := by
  have isFinite : reading.isFinite = true := finite.get? held
  have served := @serve_valuePath gate asking storage .gauge name get path fits named finite
  have shown := (shows_handle served).found _ held
  have stays : ∀ shown, Value.gauge reading = .gauge shown → shown.isFinite = true := by
    rintro _ ⟨⟩
    exact isFinite
  have made : Record.ofText Kind.gauge.name name reading.text = .ok (.gauge name reading) :=
    Record.ofText_text named stays
  have sets : gate.command sending = .ok (.set (.gauge name reading)) := by
    rw [command_of_sendsText sends (by decide) (fun listed => (fits _ listed).1 rfl) (slash_notMem_text isFinite),
      textRecord_of_ofText sends made]
    rfl
  obtain ⟨done, settled⟩ := handle_set_of_updateRecord sets (updateRecord_of_get? named isFinite held)
  exact ⟨shown.1, shown.2, done, by rw [settled, MemoryStorage.settle_ok_store]⟩

/-! ## All together -/

/-- A record that texts make is valid and has the value that they write. As texts in a path or as JSON in a body, it
is answered with the same status and does the same to any storage in memory. Texts that make none are refused with
status 400 or 404, and nothing happens. The text of each value makes the record of that value; so whoever sends back
the text that is shown of a gauge changes nothing. -/
theorem text_and_json_agree :
    (∀ type name raw record, Record.ofText type name raw = .ok record →
      (∃ value, Value.IsWritten type raw value ∧ record = Record.ofValue name value ∧
        record.validate = .ok value) ∧
      ∀ textRequest jsonRequest : Request, '/' ∉ name.toList → '/' ∉ raw.toList →
        (Text.utf8 (updatePath type name raw)).length ≤ longestPath →
        SendsText type name raw textRequest → SendsRecord record jsonRequest →
        ∀ storage : MemoryStorage, let answer (request : Request) := ({} : Gate).handle backend request storage
          (answer textRequest).1.status = (answer jsonRequest).1.status ∧
            (answer textRequest).2.1 = (answer jsonRequest).2.1) ∧
    (∀ type name raw cause, Record.ofText type name raw = .error cause → '/' ∉ name.toList → '/' ∉ raw.toList →
      ∀ request, SendsText type name raw request → ∀ (gate : Gate) (storage : MemoryStorage),
        let answer := gate.handle backend request storage
        (answer.1.status = 400 ∨ answer.1.status = 404) ∧ answer.2.1 = storage) ∧
    (∀ (name : String) (value : Value), name ≠ "" →
      (∀ reading, value = .gauge reading → reading.isFinite = true) →
      Record.ofText value.kind.name name value.text = .ok (Record.ofValue name value)) ∧
    ∀ (gate : Gate) (name : String) (reading : Binary64) (storage : MemoryStorage), name ≠ "" → FitsPath name →
      storage.store.IsFinite → storage.store.get? .gauge name = some (.gauge reading) →
      ∀ asking sending : Request, asking.method = "GET" →
        asking.path = Request.pathOf (valuePath .gauge name) →
        SendsText Kind.gauge.name name reading.text sending →
        let answer (request : Request) := gate.handle backend request storage
        (answer asking).1.status = 200 ∧ (answer asking).1.content? = some (Text.utf8 reading.text) ∧
          (answer sending).1.status = 200 ∧ (answer sending).2.1.store = storage.store := by
  refine ⟨?_, ?_, fun name value => Record.ofText_text, ?_⟩
  · intro type name raw record made
    obtain ⟨named, value, written, rfl⟩ := Record.ofText_eq_ok_iff.1 made
    have finite : ∀ reading, value = .gauge reading → reading.isFinite = true := by
      rintro reading rfl
      cases written with
      | gauge _ _ isFinite => exact isFinite
    have typeFits : '/' ∉ type.toList := by
      cases written with
      | gauge typed => rw [typed]; decide
      | counter typed => rw [typed]; decide
    refine ⟨⟨value, written, rfl, Record.validate_ofValue named finite⟩, ?_⟩
    intro textRequest jsonRequest nameFits rawFits path sendsText sendsRecord storage
    have recordFinite : (Record.ofValue name value).IsFinite := by
      cases value with
      | gauge reading =>
        intro held isHeld
        cases isHeld
        exact finite reading rfl
      | counter delta => nofun
    have sets : ({} : Gate).command textRequest = .ok (.set (Record.ofValue name value)) := by
      rw [command_of_sendsText sendsText typeFits nameFits rawFits, textRecord_of_ofText sendsText made]
      rfl
    exact handle_set_update sets
      (command_of_sendsRecord sendsRecord recordFinite (length_bytes_le_longestBody value path)) storage
  · intro type name raw cause fails nameFits rawFits request sends gate storage
    obtain ⟨refusal, refused, status⟩ := exists_refusal_of_ofText gate sends fails nameFits rawFits
    obtain ⟨sameStatus, untouched⟩ := handle_of_refusal refused backend storage
    exact ⟨sameStatus ▸ status, untouched⟩
  · intro gate name reading storage named fits finite held asking sending get path sends
    exact sends_back named fits finite held get path sends

/-- Five more hits are added by texts, with a plus in front, and by a record. More than can be counted are refused.
What is shown of a gauge is sent back to it. -/
theorem text_and_json_agree_on_hits :
    let count (value : Int) := Count.ofInt? value
    let storage : MemoryStorage :=
      ⟨⟨Roster.ofList [("Alloc", ⟨0x3ff8000000000000⟩)], Roster.ofList [("hits", ⟨7, by decide, by decide⟩)]⟩, none,
        Disk.empty⟩
    let record := Record.counter "hits" ⟨5, by decide, by decide⟩
    let asText : Request := ⟨"POST", "/update/counter/hits/+5", [], []⟩
    let asJson : Request := ⟨"POST", "/update", [("Content-Type", Text.utf8 "application/json")], record.bytes⟩
    let tooLarge : Request := ⟨"POST", "/update/counter/hits/9223372036854775808", [], []⟩
    let asking : Request := ⟨"GET", "/value/gauge/Alloc", [], []⟩
    let sending : Request := ⟨"POST", "/update/gauge/Alloc/1.5", [], []⟩
    let answer (request : Request) := ({} : Gate).handle backend request storage
    Record.ofText "counter" "hits" "+5" = .ok record ∧ record.validate = .ok (.counter ⟨5, by decide, by decide⟩) ∧
      (answer asText).1.status = 200 ∧ (answer asText).1.status = (answer asJson).1.status ∧
      (answer asText).2.1 = (answer asJson).2.1 ∧
      some ((answer asText).2.1.store.total "hits") = count 12 ∧
      (answer tooLarge).2.1 = storage ∧
      Record.ofText "gauge" "Alloc" "1.5" = .ok (.gauge "Alloc" ⟨0x3ff8000000000000⟩) ∧
      (answer asking).1.content? = some (Text.utf8 "1.5") ∧ (answer sending).2.1.store = storage.store := by
  intro count storage record asText asJson tooLarge asking sending answer
  obtain ⟨agree, refuse, display, back⟩ := text_and_json_agree
  have made : Record.ofText "counter" "hits" "+5" = .ok record := by decide +kernel
  have refused : Record.ofText "counter" "hits" "9223372036854775808" =
      .error (.invalidValue .counter "9223372036854775808") := by
    decide +kernel
  have sendsText : SendsText "counter" "hits" "+5" asText := ⟨rfl, by decide +kernel, by decide +kernel⟩
  have sendsRecord : SendsRecord record asJson :=
    ⟨by decide +kernel, rfl, by decide +kernel, by decide +kernel, by decide +kernel⟩
  obtain ⟨⟨value, written, isRecord, valid⟩, alike⟩ := agree "counter" "hits" "+5" record made
  obtain ⟨sameStatus, sameStorage⟩ := alike asText asJson (by decide +kernel) (by decide +kernel) (by decide +kernel)
    sendsText sendsRecord storage
  obtain ⟨_, untouched⟩ := refuse _ _ _ _ refused (by decide +kernel) (by decide +kernel) tooLarge
    ⟨rfl, by decide +kernel, by decide +kernel⟩ {} storage
  have isShown : (⟨0x3ff8000000000000⟩ : Binary64).text = "1.5" := by decide +kernel
  have read := display "Alloc" (.gauge ⟨0x3ff8000000000000⟩) (by decide) fun reading same => by
    cases same
    decide +kernel
  have finite : storage.store.IsFinite := by
    unfold Store.IsFinite
    decide +kernel
  have sendsBack : SendsText "gauge" "Alloc" (⟨0x3ff8000000000000⟩ : Binary64).text sending := by
    rw [isShown]
    exact ⟨rfl, by decide +kernel, by decide +kernel⟩
  obtain ⟨_, shown, _, unchanged⟩ := back {} "Alloc" ⟨0x3ff8000000000000⟩ storage (by decide) (by decide) finite
    (by decide +kernel) asking sending rfl (by decide +kernel) sendsBack
  have isValue : value = .counter ⟨5, by decide, by decide⟩ := by
    cases written with
    | gauge typed => exact absurd typed (by decide)
    | @counter delta =>
      have sameDelta : some ⟨5, by decide, by decide⟩ = some delta := congrArg Record.delta isRecord
      rw [Option.some.inj sameDelta]
  refine ⟨made, isValue ▸ valid, by decide +kernel, sameStatus, sameStorage, by decide +kernel, untouched, ?_, ?_,
    unchanged⟩
  · exact isShown ▸ read
  · exact isShown ▸ shown

end Gate

end Telemetry
