import Telemetry.Proofs.Collector.Effects
import Telemetry.Proofs.Net.Subnet

/-!
# Trust in addresses

A collector with a trusted subnet looks at the address that a sender of records claims before it looks at
anything else. Whoever is not trusted learns nothing but that: the answer depends neither on what else was sent
nor on what is stored, and nothing is stored. For whoever is trusted there might as well be no subnet.
-/

namespace Telemetry

/-- The headers claim an address, and it is one of the subnet. -/
def Subnet.Trusts (subnet : Subnet) (headers : Headers) : Prop :=
  ∃ text address, headers.firstText? Protocol.addressHeader = some text ∧
    Address.ofText? (Text.trim text) = some address ∧ subnet.contains address = true

theorem Subnet.trusts_iff {subnet : Subnet} {headers : Headers} :
    subnet.Trusts headers ↔ subnet.allows (headers.firstText? Protocol.addressHeader) = true :=
  allows_eq_true_iff.symm

instance (subnet : Subnet) (headers : Headers) : Decidable (subnet.Trusts headers) :=
  decidable_of_iff _ Subnet.trusts_iff.symm

namespace Gate

variable {World : Type} {gate : Gate} {subnet : Subnet} {request : Request}

/-- A request that sends records as JSON, one or many. -/
def Ingests (request : Request) : Prop :=
  PostsTo "update" request ∨ PostsTo "updates" request

instance (request : Request) : Decidable (Ingests request) :=
  inferInstanceAs (Decidable (_ ∨ _))

/-! ## Senders that are not trusted -/

/-- Why a request from outside of a subnet is refused. -/
def outsider (subnet : Subnet) (headers : Headers) : Refusal :=
  .untrusted (headers.firstText? Protocol.addressHeader) subnet

theorem checkAddress_of_not_trusts (configured : gate.trustedSubnet = some subnet)
    (untrusted : ¬subnet.Trusts request.headers) :
    gate.checkAddress request.headers = .error (outsider subnet request.headers) := by
  rw [checkAddress, configured]
  exact if_neg fun allowed => untrusted (Subnet.trusts_iff.2 allowed)

/-- Records from outside of the subnet are refused for that, whatever else is wrong with them. -/
theorem command_of_not_trusts (configured : gate.trustedSubnet = some subnet)
    (untrusted : ¬subnet.Trusts request.headers) (ingests : Ingests request) :
    gate.command request = .error (outsider subnet request.headers) := by
  have refused := checkAddress_of_not_trusts configured untrusted
  rcases ingests with one | many
  · rw [command_update one, refused]
    rfl
  · rw [command_updates many, refused]
    rfl

theorem handle_of_not_trusts (configured : gate.trustedSubnet = some subnet)
    (untrusted : ¬subnet.Trusts request.headers) (ingests : Ingests request) (backend : Backend World)
    (world : World) :
    let refusal := outsider subnet request.headers
    let response := Response.ofRefusal refusal
    gate.handle backend request world =
      (if request.headers.acceptsGzip then response.compress else response, world,
        LogLine.ofStatus 403 refusal.message) := by
  intro refusal response
  have refused : gate.serve backend request = .fail refusal := by
    rw [serve, command_of_not_trusts configured untrusted ingests]
  unfold handle
  rw [refused]
  rfl

/-! ## Senders that are trusted -/

/-- The collector without its subnet. -/
def withoutSubnet (gate : Gate) : Gate :=
  { gate with trustedSubnet := none }

theorem checkAddress_of_trusts (configured : gate.trustedSubnet = some subnet)
    (trusted : subnet.Trusts request.headers) :
    gate.checkAddress request.headers = gate.withoutSubnet.checkAddress request.headers := by
  rw [checkAddress, configured]
  exact if_pos (Subnet.trusts_iff.1 trusted)

theorem handle_of_trusts (configured : gate.trustedSubnet = some subnet)
    (trusted : subnet.Trusts request.headers) (backend : Backend World) (world : World) :
    gate.handle backend request world = gate.withoutSubnet.handle backend request world := by
  have sameCommand : gate.command request = gate.withoutSubnet.command request := by
    unfold command
    rw [checkAddress_of_trusts configured trusted]
    rfl
  unfold handle serve
  rw [sameCommand]
  rfl

/-! ## Both -/

/-- Requests that send records and claim the same address outside of the subnet, or none, get the same answer,
with status 403, whatever else there is in them and in the stores, and both stores are left as they are. A
request that claims an address in the subnet is answered, and does, as if there were no subnet. -/
theorem trusts_the_address_alone (gate : Gate) (subnet : Subnet)
    (configured : gate.trustedSubnet = some subnet) :
    (∀ first second : Request, Ingests first → Ingests second →
      first.headers.firstText? Protocol.addressHeader = second.headers.firstText? Protocol.addressHeader →
      first.headers.acceptsGzip = second.headers.acceptsGzip →
      ¬subnet.Trusts first.headers →
      ∀ {World Other : Type} (backend : Backend World) (otherBackend : Backend Other) (world : World)
        (other : Other),
        let (response, after, lines) := gate.handle backend first world
        let (otherResponse, otherAfter, otherLines) := gate.handle otherBackend second other
        response.status = 403 ∧ response = otherResponse ∧ lines = otherLines ∧
          after = world ∧ otherAfter = other) ∧
    ∀ request : Request, subnet.Trusts request.headers →
      ∀ {World : Type} (backend : Backend World) (world : World),
        gate.handle backend request world = gate.withoutSubnet.handle backend request world := by
  refine ⟨?_, fun request trusted _ backend world => handle_of_trusts configured trusted backend world⟩
  intro first second firstIngests secondIngests sameAddress sameCoding untrusted World Other backend otherBackend
    world other
  have secondUntrusted : ¬subnet.Trusts second.headers := by
    rw [Subnet.trusts_iff, ← sameAddress, ← Subnet.trusts_iff]
    exact untrusted
  have sameRefusal : outsider subnet first.headers = outsider subnet second.headers := by
    rw [outsider, outsider, sameAddress]
  rw [handle_of_not_trusts configured untrusted firstIngests,
    handle_of_not_trusts configured secondUntrusted secondIngests, sameRefusal, sameCoding]
  refine ⟨?_, rfl, rfl, rfl, rfl⟩
  split
  · exact Response.status_compress _
  · rfl

/-- A counter and what is no record at all are answered alike where they come from an address outside, whatever is
stored. From inside the counter is taken. -/
theorem trusts_the_address_alone_outside :
    let subnet : Subnet := ⟨.v4 0x0a000000#32, 8, by decide⟩
    let gate : Gate := ⟨{}, some subnet⟩
    let claiming (address : String) : Headers := [(Protocol.addressHeader, Text.utf8 address)]
    let one : Count := ⟨1, by decide, by decide⟩
    let hit := (Record.counter "hits" one).bytes
    let record : Request := ⟨"POST", "/update/", claiming "192.168.1.1", hit⟩
    let fromInside : Request := ⟨"POST", "/update/", claiming "10.1.2.3", hit⟩
    let garbage : Request :=
      ⟨"POST", "/updates", ("content-type", Text.utf8 "text/plain") :: claiming "192.168.1.1", [0xff]⟩
    let empty := MemoryStorage.fresh none Disk.empty
    let full : MemoryStorage := ⟨⟨Roster.empty, Roster.ofList [("hits", one)]⟩, none, Disk.empty⟩
    let refused := gate.handle MemoryStorage.backend record empty
    let taken := gate.handle MemoryStorage.backend fromInside empty
    gate.trustedSubnet = some subnet ∧
      Ingests record ∧ Ingests garbage ∧ ¬subnet.Trusts record.headers ∧ subnet.Trusts fromInside.headers ∧
      refused.1.status = 403 ∧ refused.1 = (gate.handle MemoryStorage.backend garbage full).1 ∧
      refused.2.1 = empty ∧ taken.1.status = 200 ∧
      taken = gate.withoutSubnet.handle MemoryStorage.backend fromInside empty := by
  intro subnet gate claiming one hit record fromInside garbage empty full refused taken
  obtain ⟨outside, inside⟩ := trusts_the_address_alone gate subnet rfl
  have recordIngests : Ingests record := by decide
  have garbageIngests : Ingests garbage := by decide
  have untrusted : ¬subnet.Trusts record.headers := by decide +kernel
  have trusted : subnet.Trusts fromInside.headers := by decide +kernel
  have done : taken.1.status = 200 := by decide +kernel
  obtain ⟨forbidden, same, _, untouched, _⟩ :=
    outside record garbage recordIngests garbageIngests (by decide +kernel) (by decide +kernel) untrusted
      MemoryStorage.backend MemoryStorage.backend empty full
  exact ⟨rfl, recordIngests, garbageIngests, untrusted, trusted, forbidden, same, untouched, done,
    inside fromInside trusted MemoryStorage.backend empty⟩

end Gate

end Telemetry
