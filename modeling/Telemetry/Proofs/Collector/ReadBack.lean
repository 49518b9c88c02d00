import Telemetry.Proofs.Collector.Routes
import Telemetry.Proofs.Collector.Updates
import Telemetry.Proofs.Compression.Gzip
import Telemetry.Proofs.Service.Reading
import Telemetry.Proofs.Store.Snapshot

/-!
# Reading back

A collector in memory shows a metric as a record, as a text and as a line of the listing, and it answers an update
with a record. All of them show what is in the store, at any time: no gauge is ever held whose value the text could
not show.
-/

namespace Telemetry

open MemoryStorage (backend)

/-! ## What a response holds -/

namespace Response

/-- What the body of a response holds once it is unpacked. -/
def content? (response : Response) : Option Bytes :=
  if response.compressed then Gzip.unpack? response.body else some response.body

theorem content?_compress {response : Response} (asItIs : response.compressed = false) :
    response.compress.content? = some response.body := by
  unfold compress
  split
  · simp [content?, asItIs]
  · simp [content?, Gzip.unpack?_pack]

theorem compressed_ofOutcome (key : Option String) (outcome : Except Refusal Reply) :
    (ofOutcome key outcome).compressed = false := by
  cases outcome with
  | ok reply => cases reply <;> rfl
  | error refusal => rfl

/-- The response shows the value that is stored in a certain way, or says that none is found. -/
structure Shows (response : Response) (shown : Value → Bytes) (stored : Option Value) : Prop where
  found : ∀ value, stored = some value → response.status = 200 ∧ response.content? = some (shown value)
  notFound : stored = none → response.status = 404

end Response

/-! ## What commands give -/

theorem Record.validate_ofValue {name : String} {value : Value} (named : name ≠ "")
    (finite : ∀ reading, value = .gauge reading → reading.isFinite = true) :
    (ofValue name value).validate = .ok value := by
  cases value with
  | gauge reading => exact validate_eq_ok_gauge_iff.2 ⟨named, rfl, rfl, rfl, finite reading rfl⟩
  | counter total => exact validate_eq_ok_counter_iff.2 ⟨named, rfl, rfl, rfl⟩

theorem Store.IsFinite.get? {store : Store} (finite : store.IsFinite) {kind : Kind} {name : String}
    {reading : Binary64} (held : store.get? kind name = some (.gauge reading)) : reading.isFinite = true := by
  cases kind with
  | gauge =>
    obtain ⟨_, found, same⟩ := Option.map_eq_some_iff.1 held
    cases same
    exact finite (name, reading) (Roster.mem_entries_iff.2 found)
  | counter =>
    obtain ⟨_, _, same⟩ := Option.map_eq_some_iff.1 held
    cases same

namespace Command

variable {storage : MemoryStorage} {kind : Kind} {name : String}

/-- What is said about a metric that is asked for: its value in some form, or that there is none. -/
def foundOr (kind : Kind) (name : String) (reply : Value → Reply) : Option Value → Except Refusal Reply
  | some value => .ok (reply value)
  | none => .error (.service (.notFound kind name))

theorem perform_query {asked : Record} (asks : asked.checkQuery = .ok kind) (storage : MemoryStorage) :
    ((query asked).perform backend storage).result =
      foundOr kind asked.id (fun value => .record (Record.ofValue asked.id value))
        (storage.store.get? kind asked.id) := by
  refine (congrArg Outcome.result (Action.bind_pure_apply _ _ storage)).trans ?_
  rw [Action.mapCause, Service.value_apply asks]
  cases storage.store.get? kind asked.id <;> rfl

/-- The text of a value that is stored is not refused. -/
theorem valueText_of_get?_eq_some {store : Store} (finite : store.IsFinite) (named : name ≠ "") {value : Value}
    (held : store.get? kind name = some value) : valueText (Record.ofValue name value) = .ok value.text := by
  have valid : (Record.ofValue name value).validate = .ok value := by
    refine Record.validate_ofValue named ?_
    rintro reading rfl
    exact finite.get? held
  rw [valueText, valid]

theorem perform_show (finite : storage.store.IsFinite) (kind : Kind) (named : name ≠ "") :
    ((Command.show (Record.query name (.known kind))).perform backend storage).result =
      foundOr kind name (fun value => .text value.text) (storage.store.get? kind name) := by
  have asks : (Record.query name (.known kind)).checkQuery = .ok kind :=
    Record.checkQuery_eq_ok_iff.2 ⟨named, rfl⟩
  have sameName : (Record.query name (.known kind)).id = name := rfl
  have asked := Service.value_apply asks storage
  rw [sameName] at asked
  dsimp only [perform]
  cases held : storage.store.get? kind name with
  | none =>
    rw [held] at asked
    have missing : ((Service.value backend (Record.query name (.known kind))).mapCause showRefusal storage).result =
        .error (.service (.notFound kind name)) := by
      rw [Action.mapCause, asked]
      rfl
    rw [Action.bind_apply_error missing]
    rfl
  | some value =>
    rw [held] at asked
    have found : (Service.value backend (Record.query name (.known kind))).mapCause showRefusal storage =
        ⟨.ok (Record.ofValue name value), storage, []⟩ := by
      rw [Action.mapCause, asked]
      rfl
    rw [Action.bind_apply_of_eq_ok found, valueText_of_get?_eq_some finite named held]
    rfl

theorem perform_list (storage : MemoryStorage) :
    (list.perform backend storage).result =
      .ok (.listing
        ("\n".intercalate (storage.store.toList.map fun (name, value) => value.listingLine name))) := by
  refine (congrArg Outcome.result (Action.bind_pure_apply _ _ storage)).trans ?_
  rw [Action.mapCause, Service.list_apply]
  rfl

end Command

/-! ## Requests -/

namespace Gate

variable {gate : Gate} {request : Request} {storage : MemoryStorage} {kind : Kind} {name : String}

/-- The body of a request is a record with a name and the type of a kind. -/
def IsAbout (gate : Gate) (kind : Kind) (name : String) (request : Request) : Prop :=
  ∃ record, body gate.reader.record request = .ok record ∧ record.id = name ∧ record.type = .known kind

/-- A record is read from the body of a request without headers, if it need not be sealed and is not too long. -/
theorem body_bytes {record : Record} (unsealed : gate.reader.openingKey = none) (finite : record.IsFinite)
    (short : record.bytes.length ≤ longestBody) (method path : String) :
    body gate.reader.record ⟨method, path, [], record.bytes⟩ = .ok record := by
  have verified : Signature.verify record.bytes gate.reader.key none = .ok () := by
    unfold Signature.verify
    cases Signature.usableKey gate.reader.key <;> rfl
  have opened : gate.reader.openPayload record.bytes = .ok record.bytes := by
    rw [FrameReader.openPayload, unsealed]
  have payload : gate.reader.payload record.bytes false none = .ok record.bytes := by
    change (Signature.verify record.bytes gate.reader.key none).bind
      (fun _ => gate.reader.openPayload record.bytes) = _
    rw [verified, Except.bind, opened]
  have read : gate.reader.record record.bytes false none = .ok record := by
    rw [FrameReader.record, payload, Except.bind, FrameReader.decode, Record.ofBytes?_bytes finite]
  have length : checkLength record.bytes = .ok () := if_neg (Nat.not_lt.2 short)
  change (checkLength record.bytes).bind
    (fun _ => (gate.reader.record record.bytes false none).mapError .payload) = _
  rw [length, read]
  rfl

/-- A storage after requests, one after another. -/
def afterAll (gate : Gate) (storage : MemoryStorage) (requests : List Request) : MemoryStorage :=
  requests.foldl (fun storage request => (gate.handle backend request storage).2.1) storage

theorem isFinite_afterAll (finite : storage.store.IsFinite) (requests : List Request) :
    (gate.afterAll storage requests).store.IsFinite := by
  induction requests generalizing storage with
  | nil => exact finite
  | cons request requests inductionHypothesis =>
    exact inductionHypothesis (finite.applyAll (gate.applies_handle request storage).applyAll)

theorem content?_handle {World : Type} (gate : Gate) (backend : Backend World) (request : Request)
    (world : World) :
    (gate.handle backend request world).1.content? =
      some (Response.ofOutcome gate.reader.key (gate.serve backend request world).result).body := by
  have asItIs := Response.compressed_ofOutcome gate.reader.key (gate.serve backend request world).result
  unfold handle
  dsimp only
  split
  · exact Response.content?_compress asItIs
  · rw [Response.content?, asItIs]
    rfl

/-- What a response shows of a metric is what has been found. -/
theorem shows_handle {reply : Value → Reply} {stored : Option Value}
    (served : (gate.serve backend request storage).result = Command.foundOr kind name reply stored) :
    (gate.handle backend request storage).1.Shows
      (fun value => (Response.ofReply gate.reader.key (reply value)).body) stored := by
  constructor
  · rintro value rfl
    rw [status_handle, content?_handle, served]
    exact ⟨status_ofReply _ (reply value), rfl⟩
  · rintro rfl
    rw [status_handle, served]
    rfl

/-- A request for the record of a metric is served with the record of what is stored. -/
theorem serve_value (posts : PostsTo "value" request) (about : gate.IsAbout kind name request)
    (named : name ≠ "") (storage : MemoryStorage) :
    (gate.serve backend request storage).result =
      Command.foundOr kind name (fun value => .record (Record.ofValue name value))
        (storage.store.get? kind name) := by
  obtain ⟨asked, read, rfl, typed⟩ := about
  have decided : gate.command request = .ok (.query asked) := by
    rw [command_value posts, read]
    rfl
  rw [serve_of_command decided]
  exact Command.perform_query (Record.checkQuery_eq_ok_iff.2 ⟨named, typed⟩) storage

/-- A request for the path of a value is served with the text of what is stored. -/
theorem serve_valuePath (get : request.method = "GET")
    (path : request.path = Request.pathOf (valuePath kind name)) (fits : FitsPath name) (named : name ≠ "")
    (finite : storage.store.IsFinite) :
    (gate.serve backend request storage).result =
      Command.foundOr kind name (fun value => .text value.text) (storage.store.get? kind name) := by
  have places : segments request.path = ["value", kind.name, name] := by
    rw [path, pathOf_valuePath fits, segments_valuePath fits]
  have knownType : RecordType.ofName kind.name = .known kind := RecordType.ofName_name (.known kind)
  rw [serve_of_command (command_show get places named), knownType]
  exact Command.perform_show finite kind named

/-- A request for the root is served with the listing of the store. -/
theorem serve_root (get : request.method = "GET") (path : request.path = "/") (storage : MemoryStorage) :
    (gate.serve backend request storage).result =
      .ok (.listing
        ("\n".intercalate (storage.store.toList.map fun (name, value) => value.listingLine name))) := by
  have root : segments request.path = [""] := by
    rw [path]
    decide
  rw [serve_of_command (command_list get root)]
  exact Command.perform_list storage

/-- An update of one record that is done is about a metric, and is served with the record of what is stored then. -/
theorem exists_of_serve_update {reply : Reply} (posts : PostsTo "update" request)
    (done : (gate.serve backend request storage).result = .ok reply) :
    ∃ kind name value, name ≠ "" ∧ gate.IsAbout kind name request ∧ reply = .record (Record.ofValue name value) ∧
      (gate.serve backend request storage).world.store.get? kind name = some value := by
  cases decided : gate.command request with
  | error refusal =>
    rw [serve, decided] at done
    cases done
  | ok command =>
    obtain ⟨record, read, rfl⟩ := exists_of_command_update posts decided
    rw [serve_of_command decided] at done ⊢
    obtain ⟨stored, updated, rfl, sameWorld⟩ := Action.exists_of_bind_pure_eq_ok _ done
    obtain ⟨value, asks, rfl, held⟩ := Service.exists_of_update_eq_ok updated
    obtain ⟨named, typed⟩ := Record.checkQuery_eq_ok_iff.1 asks
    exact ⟨value.kind, record.id, value, named, ⟨record, read, rfl, typed⟩, rfl, sameWorld ▸ held⟩

/-- The response to a request depends on what is served and on whether the sender takes compressed answers. -/
theorem handle_congr {other : Request} {otherStorage : MemoryStorage}
    (same : (gate.serve backend request storage).result = (gate.serve backend other otherStorage).result)
    (sameCoding : request.headers.acceptsGzip = other.headers.acceptsGzip) :
    (gate.handle backend request storage).1 = (gate.handle backend other otherStorage).1 := by
  unfold handle
  dsimp only
  rw [same, sameCoding]

end Gate

end Telemetry
