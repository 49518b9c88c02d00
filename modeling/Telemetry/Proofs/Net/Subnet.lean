import Telemetry.Net.Subnet
import Telemetry.Proofs.Net.Address

/-!
# Blocks of addresses

A subnet contains the addresses of its family that have the same first bits as its network address, after a
long address that stands for a short one has been read as the short one. The comparison by mask comes to this
for every length, none and all of the bits included: the words of the machine hold the numbers that the mask
is computed from, and where all bits would have to be shifted out, the mask is zero.
-/

namespace Telemetry

namespace Address

variable {address other : Address}

/-- The bits of an address as a number. -/
def value : Address → Nat
  | v4 bits => bits.toNat
  | v6 bits => bits.toNat

theorem width_lt (address : Address) : address.width < 2 ^ 32 := by
  cases address
  case v4 => exact (by decide : 32 < 2 ^ 32)
  case v6 => exact (by decide : 128 < 2 ^ 32)

/-- The width of an address tells its family, and its value the address in the family. -/
theorem eq_of_width_of_value (sameFamily : address.width = other.width)
    (sameValue : address.value = other.value) : address = other := by
  cases address <;> cases other
  case v4.v4 => exact congrArg v4 (BitVec.eq_of_toNat_eq sameValue)
  case v4.v6 => cases sameFamily
  case v6.v4 => cases sameFamily
  case v6.v6 => exact congrArg v6 (BitVec.eq_of_toNat_eq sameValue)

/-- What is read as an address of its own family is read as itself. -/
theorem canonical_eq_self_of_width (sameFamily : address.canonical.width = address.width) :
    address.canonical = address := by
  cases address with
  | v4 bits => rfl
  | v6 bits =>
    simp only [canonical] at sameFamily ⊢
    split at sameFamily
    · cases sameFamily
    · next unmapped => rw [if_neg unmapped]

end Address

namespace Subnet

/-! ## Masks -/

section Masks

variable {width length : Nat}

/-- The number of the bits that follow is computed without overflow. -/
theorem usubOverflow_hostBits (isWord : width < 2 ^ 32) (le_width : length ≤ width) :
    BitVec.usubOverflow (BitVec.ofNat 32 width) (BitVec.ofNat 32 length) = false := by
  have lengthIsWord : length < 2 ^ 32 := Nat.lt_of_le_of_lt le_width isWord
  rw [BitVec.usubOverflow_eq, decide_eq_false_iff_not, BitVec.lt_def, BitVec.toNat_ofNat, BitVec.toNat_ofNat,
    Nat.mod_eq_of_lt isWord, Nat.mod_eq_of_lt lengthIsWord]
  exact Nat.not_lt.2 le_width

theorem toNat_hostBits (isWord : width < 2 ^ 32) (le_width : length ≤ width) :
    (hostBits width length).toNat = width - length := by
  have lengthIsWord : length < 2 ^ 32 := Nat.lt_of_le_of_lt le_width isWord
  have noOverflow : ¬BitVec.usubOverflow (BitVec.ofNat 32 width) (BitVec.ofNat 32 length) = true := by
    rw [usubOverflow_hostBits isWord le_width]
    exact Bool.false_ne_true
  rw [hostBits, BitVec.toNat_sub_of_not_usubOverflow noOverflow, BitVec.toNat_ofNat, BitVec.toNat_ofNat,
    Nat.mod_eq_of_lt isWord, Nat.mod_eq_of_lt lengthIsWord]

/-- All bits would have to be shifted out exactly if none of them is to be kept. -/
theorem shiftLeft?_hostBits_eq_none_iff (isWord : width < 2 ^ 32) (le_width : length ≤ width)
    (bits : BitVec width) : shiftLeft? bits (hostBits width length).toNat = none ↔ length = 0 := by
  have all : ¬width - length < width ↔ length = 0 := by omega
  rw [toNat_hostBits isWord le_width, shiftLeft?, ← all]
  split
  · next fewer => simp [fewer]
  · next none => simp [none]

theorem mask_eq (isWord : width < 2 ^ 32) (le_width : length ≤ width) :
    mask width length = BitVec.allOnes width <<< (width - length) := by
  rw [mask, toNat_hostBits isWord le_width, shiftLeft?]
  split
  · rfl
  · next all =>
    rw [BitVec.shiftLeft_eq_zero (Nat.not_lt.1 all)]
    rfl

/-- Under a mask the first bits stay, and the others are zero. -/
theorem toNat_and_mask (isWord : width < 2 ^ 32) (le_width : length ≤ width) (bits : BitVec width) :
    (bits &&& mask width length).toNat = bits.toNat / 2 ^ (width - length) * 2 ^ (width - length) := by
  have shifted : bits &&& mask width length = (bits >>> (width - length)) <<< (width - length) := by
    rw [mask_eq isWord le_width]
    ext place isPlace
    by_cases follows : place < width - length
    · simp [follows]
    · simp [follows, isPlace, Nat.add_sub_cancel' (Nat.not_lt.1 follows)]
  rw [shifted, BitVec.toNat_shiftLeft, BitVec.toNat_ushiftRight, Nat.shiftLeft_eq, Nat.shiftRight_eq_div_pow]
  exact Nat.mod_eq_of_lt (Nat.lt_of_le_of_lt (Nat.div_mul_le_self _ _) bits.isLt)

/-- Under a mask are the same bits exactly if the first ones are the same. -/
theorem and_mask_eq_iff (isWord : width < 2 ^ 32) (le_width : length ≤ width) (first second : BitVec width) :
    first &&& mask width length = second &&& mask width length ↔
      first.toNat / 2 ^ (width - length) = second.toNat / 2 ^ (width - length) := by
  rw [← BitVec.toNat_inj, toNat_and_mask isWord le_width, toNat_and_mask isWord le_width]
  exact Nat.mul_left_inj (Nat.ne_of_gt (Nat.two_pow_pos _))

end Masks

/-! ## Membership -/

variable {network address : Address} {length : Nat} {subnet : Subnet}

theorem ofAddress_eq_ok_iff :
    ofAddress network length = .ok subnet ↔ subnet.network = network ∧ subnet.length = length := by
  unfold ofAddress
  constructor
  · intro accepted
    split at accepted
    · cases accepted
      exact ⟨rfl, rfl⟩
    · cases accepted
  · rintro ⟨rfl, rfl⟩
    exact dif_pos subnet.length_le_width

/-- A network address and a length make a subnet exactly if the address has so many bits. -/
theorem exists_ofAddress_iff :
    (∃ subnet, ofAddress network length = .ok subnet) ↔ length ≤ network.width := by
  constructor
  · rintro ⟨subnet, accepted⟩
    obtain ⟨rfl, rfl⟩ := ofAddress_eq_ok_iff.1 accepted
    exact subnet.length_le_width
  · intro le_width
    exact ⟨⟨network, length, le_width⟩, dif_pos le_width⟩

theorem contains_eq_true_iff :
    subnet.contains address = true ↔
      address.canonical.width = subnet.network.width ∧
        subnet.network.value / 2 ^ (subnet.network.width - subnet.length) =
          address.canonical.value / 2 ^ (subnet.network.width - subnet.length) := by
  obtain ⟨network, length, le_width⟩ := subnet
  unfold contains
  generalize address.canonical = canonical
  cases network <;> cases canonical
  case v4.v4 network bits =>
    have sameFirst := and_mask_eq_iff (by decide : 32 < 2 ^ 32) le_width network bits
    exact beq_iff_eq.trans (sameFirst.trans (and_iff_right rfl).symm)
  case v4.v6 => exact ⟨nofun, fun ⟨sameFamily, _⟩ => by cases sameFamily⟩
  case v6.v4 => exact ⟨nofun, fun ⟨sameFamily, _⟩ => by cases sameFamily⟩
  case v6.v6 network bits =>
    have sameFirst := and_mask_eq_iff (by decide : 128 < 2 ^ 32) le_width network bits
    exact beq_iff_eq.trans (sameFirst.trans (and_iff_right rfl).symm)

/-- A network address and a length are accepted as a subnet exactly if the address has so many bits. The subnet
contains the addresses that, read in short where they stand for a short one, are of the family of the network
and agree with it in the quotient by the power of two for the bits that follow: its other bits do not matter.
The number of these is computed without overflow, and nothing is shifted by the whole width: where that would
be called for, which is where no bit is to be kept, there is no shift. -/
theorem contains_exactly_its_block (network : Address) (length : Nat) :
    ((∃ subnet, ofAddress network length = .ok subnet) ↔ length ≤ network.width) ∧
    ∀ subnet, ofAddress network length = .ok subnet →
      (∀ address, subnet.contains address = true ↔
        address.canonical.width = network.width ∧
          network.value / 2 ^ (network.width - length) =
            address.canonical.value / 2 ^ (network.width - length)) ∧
      BitVec.usubOverflow (BitVec.ofNat 32 network.width) (BitVec.ofNat 32 length) = false ∧
      ∀ bits : BitVec network.width,
        shiftLeft? bits (hostBits network.width length).toNat = none ↔ length = 0 := by
  refine ⟨exists_ofAddress_iff, fun subnet accepted => ?_⟩
  obtain ⟨rfl, rfl⟩ := ofAddress_eq_ok_iff.1 accepted
  have isWord := subnet.network.width_lt
  have le_width := subnet.length_le_width
  refine ⟨fun address => contains_eq_true_iff, usubOverflow_hostBits isWord le_width, ?_⟩
  exact shiftLeft?_hostBits_eq_none_iff isWord le_width

/-! ## The address in the text of a subnet -/

variable {raw : String} {claimed : Option String}

/-- What stands before the slash in the text of a subnet, if there is a slash, and else all of it. -/
def writtenAddress (raw : String) : String :=
  String.ofList (Text.cut '/' (Text.trim raw).toList).1

/-- What is written is the network address. Alone it stands for all of its bits. -/
theorem of_ofText_eq_ok (accepted : ofText raw = .ok subnet) :
    Address.ofText? (writtenAddress raw) = some subnet.network ∧
      ('/' ∉ (Text.trim raw).toList → subnet.length = subnet.network.width) := by
  unfold ofText at accepted
  unfold writtenAddress
  generalize isCut : Text.cut '/' (Text.trim raw).toList = cut at accepted ⊢
  obtain ⟨addressText, lengthText⟩ := cut
  dsimp only at accepted ⊢
  cases read : Address.ofText? (String.ofList addressText) with
  | none =>
    rw [read] at accepted
    cases accepted
  | some network =>
    rw [read] at accepted
    dsimp only at accepted
    cases lengthText with
    | none =>
      obtain ⟨rfl, whole⟩ := ofAddress_eq_ok_iff.1 accepted
      exact ⟨rfl, fun _ => whole⟩
    | some lengthText =>
      dsimp only at accepted
      split at accepted
      · cases accepted
      · obtain ⟨rfl, _⟩ := ofAddress_eq_ok_iff.1 accepted
        refine ⟨rfl, fun alone => ?_⟩
        rw [Text.cut_of_not_mem alone] at isCut
        cases isCut

theorem allows_eq_true_iff :
    subnet.allows claimed = true ↔
      ∃ text address, claimed = some text ∧ Address.ofText? (Text.trim text) = some address ∧
        subnet.contains address = true := by
  unfold allows
  cases claimed with
  | none => simp
  | some text =>
    rw [Option.bind_some]
    cases read : Address.ofText? (Text.trim text) <;> simp [read]

/-- A subnet takes the text of an address that it contains. -/
theorem allows_text (contained : subnet.contains address = true) : subnet.allows (some address.text) = true := by
  refine allows_eq_true_iff.2 ⟨address.text, address, rfl, ?_, contained⟩
  rw [address.isVisible_text.trim, Address.ofText?_text]

/-- A subnet contains its network address exactly if that does not stand for a short address. -/
theorem contains_network_iff :
    subnet.contains subnet.network = true ↔ subnet.network.canonical = subnet.network := by
  rw [contains_eq_true_iff]
  constructor
  · exact fun ⟨sameFamily, _⟩ => Address.canonical_eq_self_of_width sameFamily
  · intro unmapped
    rw [unmapped]
    exact ⟨rfl, rfl⟩

/-- A subnet with all bits of its network address is that host alone. -/
theorem contains_iff_of_length_eq_width (whole : subnet.length = subnet.network.width) :
    subnet.contains address = true ↔ address.canonical = subnet.network := by
  rw [contains_eq_true_iff, whole, Nat.sub_self, Nat.pow_zero, Nat.div_one, Nat.div_one]
  constructor
  · exact fun ⟨sameFamily, sameValue⟩ => Address.eq_of_width_of_value sameFamily sameValue.symm
  · intro same
    rw [same]
    exact ⟨rfl, rfl⟩

/-- A subnet allows a header that repeats the address in its text, exactly if that is no long address that stands
for a short one. A subnet whose text is an address alone allows the headers that name this very host, in any
spelling, and no others. -/
theorem allows_own_address_iff (accepted : ofText raw = .ok subnet) :
    (subnet.allows (some (writtenAddress raw)) = true ↔ subnet.network.canonical = subnet.network) ∧
    ('/' ∉ (Text.trim raw).toList →
      ∀ claimed, subnet.allows claimed = true ↔
        ∃ text address, claimed = some text ∧ Address.ofText? (Text.trim text) = some address ∧
          address.canonical = subnet.network) := by
  obtain ⟨written, alone⟩ := of_ofText_eq_ok accepted
  constructor
  · have untrimmed : Text.trim (writtenAddress raw) = writtenAddress raw :=
      (Address.isVisible_of_ofText? written).trim
    rw [allows, Option.bind_some, untrimmed, written]
    exact contains_network_iff
  · intro noSlash claimed
    simp only [allows_eq_true_iff, contains_iff_of_length_eq_width (alone noSlash)]

/-- The address in a block of long addresses is allowed as it is written there. -/
theorem allows_own_address_iff_upper_case :
    let raw := " 2001:DB8::7/32\t"
    let subnet : Subnet := ⟨.v6 0x20010db8000000000000000000000007#128, 32, by decide⟩
    ofText raw = .ok subnet ∧ writtenAddress raw = "2001:DB8::7" ∧
      subnet.allows (some "2001:DB8::7") = true := by
  intro raw subnet
  have accepted : ofText raw = .ok subnet := by decide +kernel
  have written : writtenAddress raw = "2001:DB8::7" := by decide +kernel
  refine ⟨accepted, written, ?_⟩
  rw [← written]
  exact (allows_own_address_iff accepted).1.2 (by decide +kernel)

/-- A long address that stands for a short one is refused by the subnet that is made of it alone. -/
theorem refuses_own_mapped_address :
    ¬∀ (raw : String) (subnet : Subnet), ofText raw = .ok subnet →
      subnet.allows (some (writtenAddress raw)) = true := by
  intro allowsOwn
  let subnet : Subnet := ⟨.v6 0xffff0a000001#128, 128, by decide⟩
  have accepted : ofText "::ffff:10.0.0.1" = .ok subnet := by decide +kernel
  have allowed := allowsOwn "::ffff:10.0.0.1" subnet accepted
  revert allowed
  decide +kernel

end Subnet

end Telemetry
