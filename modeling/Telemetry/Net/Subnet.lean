import Telemetry.Net.Address
import Telemetry.Number.Count
import Telemetry.Text.Blank

/-!
# Subnets

A subnet is the block of addresses that agree with a network address on its first bits. An address alone
is the block of that one host. The comparison is by mask, after a long address that stands for a short one
has been read as the short one.
-/

namespace Telemetry

/-- Why a text or a pair of address and prefix length is no subnet. -/
inductive SubnetError
  | address (raw : String)
  | prefixLength (raw : String)
  deriving DecidableEq, Repr

/-- The wording of a refusal. -/
def SubnetError.message : SubnetError → String
  | address raw => "invalid network address '" ++ raw ++ "'"
  | prefixLength raw => "invalid prefix length '" ++ raw ++ "'"

/-- A block of addresses: those that share the first `length` bits of `network`. -/
structure Subnet where
  network : Address
  length : Nat
  length_le_width : length ≤ network.width
  deriving DecidableEq, Repr

namespace Subnet

/-- The block with the given network address and prefix length. -/
def ofAddress (network : Address) (length : Nat) : Except SubnetError Subnet :=
  if length_le_width : length ≤ network.width then .ok ⟨network, length, length_le_width⟩
  else .error (.prefixLength (toString length))

/-- A shift to the left, by less than the whole width. -/
def shiftLeft? {width : Nat} (bits : BitVec width) (places : Nat) : Option (BitVec width) :=
  if places < width then some (bits <<< places) else none

/-- How many bits follow the first `length` of `width`, as a word of the machine. -/
def hostBits (width length : Nat) : BitVec 32 :=
  BitVec.ofNat 32 width - BitVec.ofNat 32 length

/-- The mask of the first `length` of `width` bits. It is zero where all bits would have to be shifted out. -/
def mask (width length : Nat) : BitVec width :=
  (shiftLeft? (BitVec.allOnes width) (hostBits width length).toNat).getD 0

/-- Whether an address belongs to the block. -/
def contains (subnet : Subnet) (address : Address) : Bool :=
  match subnet.network, address.canonical with
  | .v4 network, .v4 bits => network &&& mask 32 subnet.length == bits &&& mask 32 subnet.length
  | .v6 network, .v6 bits => network &&& mask 128 subnet.length == bits &&& mask 128 subnet.length
  | _, _ => false

/-- Whether the text of an address, if there is one, names an address of the block. -/
def allows (subnet : Subnet) (claimed : Option String) : Bool :=
  match claimed.bind fun text => Address.ofText? (Text.trim text) with
  | some address => subnet.contains address
  | none => false

/-- Reads an address, with a slash and a prefix length after it or without. -/
def ofText (raw : String) : Except SubnetError Subnet :=
  let (addressText, lengthText) := Text.cut '/' (Text.trim raw).toList
  match Address.ofText? (String.ofList addressText) with
  | none => .error (.address (String.ofList addressText))
  | some network =>
    match lengthText with
    | none => ofAddress network network.width
    | some lengthText =>
      match boundedNatural? 256 (String.ofList lengthText) with
      | none => .error (.prefixLength (String.ofList lengthText))
      | some length => ofAddress network length

/-- The network address, a slash and the prefix length. -/
def text (subnet : Subnet) : String :=
  subnet.network.text ++ "/" ++ toString subnet.length

end Subnet

end Telemetry
