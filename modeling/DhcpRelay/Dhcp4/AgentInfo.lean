import DhcpRelay.Address.Mac
import DhcpRelay.Dhcp4.Message
import DhcpRelay.Topology.Basic

/-!
# The relay agent information option

A relay marks the requests it sends on with option 82, which holds the circuit a
request came in on and the identity of the relay.  Servers send the option back,
and `judge` tells whether it is one of ours.
-/

namespace DhcpRelay.Dhcp4

/-- The identity that the relay writes. -/
inductive Identity where
  | mac (address : Mac)
  | ip (address : IPv4)
  deriving DecidableEq, Repr

/-- Which identity the relay writes and expects back. -/
inductive IdentityKind where
  | mac
  | ip
  deriving DecidableEq, Repr

namespace IdentityKind

def text : IdentityKind → String
  | mac => "mac"
  | ip => "ip"

def read : String → Option IdentityKind
  | "mac" => some .mac
  | "ip" => some .ip
  | _ => none

/-- The size of an identity of this kind. -/
def size : IdentityKind → Nat
  | mac => 6
  | ip => 4

end IdentityKind

namespace Identity

def kind : Identity → IdentityKind
  | mac _ => .mac
  | ip _ => .ip

/-- The bytes of an identity. -/
def bytes : Identity → Bytes
  | mac address => address.octets
  | ip address => address.octets

theorem length_bytes (identity : Identity) : identity.bytes.length = identity.kind.size := by
  cases identity with
  | mac address => exact address.length_octets
  | ip address => rfl

end Identity

namespace AgentInfo

/-- The tag of the circuit sub-option. -/
def circuitTag : UInt8 := 1

/-- The tag of the identity sub-option. -/
def identityTag : UInt8 := 2

/-! ## Writing -/

/-- A sub-option: tag, length and value. -/
def encodeSubOption (tag : UInt8) (value : Bytes) : Bytes :=
  tag :: UInt8.ofNat value.length :: value

/-- The value of the option. -/
def value (circuit : UInt32) (identity : Identity) : Bytes :=
  encodeSubOption circuitTag (Bytes.ofWord32 circuit) ++ encodeSubOption identityTag identity.bytes

/-- The size of the whole option with an identity of some kind. -/
def optionSize (kind : IdentityKind) : Nat :=
  2 + (2 + 4) + (2 + kind.size)

/-- The option and the end marker behind it. -/
def insertion (circuit : UInt32) (identity : Identity) : Bytes :=
  Tlv.encode4 agentInfoCode.toUInt8 (value circuit identity) ++ [endCode]

theorem length_value (circuit : UInt32) (identity : Identity) :
    (value circuit identity).length + 2 = optionSize identity.kind := by
  simp [value, encodeSubOption, Bytes.ofWord32, optionSize, identity.length_bytes]
  omega

theorem length_insertion (circuit : UInt32) (identity : Identity) :
    (insertion circuit identity).length = optionSize identity.kind + 1 := by
  rw [← length_value circuit]
  simp [insertion, Tlv.encode4]

/-! ## Judging -/

/-- What an option turned out to be. -/
inductive Verdict where
  /-- This relay wrote the option; `address` is the identity if it is an address. -/
  | ours (circuit : UInt32) (address : Option IPv4)
  /-- The sub-options are malformed. -/
  | invalid
  /-- Well formed, but not of this relay. -/
  | mismatch
  deriving DecidableEq, Repr

/-- The sub-options of a value; none if one is incomplete or has a tag of another
meaning. -/
def subOptions : Bytes → Option (List (UInt8 × Bytes))
  | [] => some []
  | [_] => none
  | tag :: length :: rest =>
      match _split : Bytes.splitExactly length.toNat rest with
      | none => none
      | some (value, rest) =>
          if tag = circuitTag ∨ tag = identityTag then
            (subOptions rest).map ((tag, value) :: ·)
          else
            none
termination_by value => value.length
decreasing_by
  have := Bytes.length_rest_of_splitExactly _split
  simp only [List.length_cons]
  omega

/-- The value of the last sub-option with a tag. -/
def lastValue (tag : UInt8) (subOptions : List (UInt8 × Bytes)) : Option Bytes :=
  ((subOptions.filter (·.1 == tag)).getLast?).map (·.2)

/-- The circuit that four bytes stand for. -/
def circuitOf? (value : Bytes) : Option UInt32 :=
  if value.length = 4 then some (UInt32.ofNat (Bytes.number value)) else none

/-- Compare an identity with this relay's. -/
def judgeIdentity (kind : IdentityKind) (links : Topology) (circuit : UInt32)
    (identity : Bytes) : Verdict :=
  match kind with
  | .mac => if identity = links.ownMac.octets then .ours circuit none else .mismatch
  | .ip =>
      match IPv4.ofOctets? identity with
      | none => .mismatch
      | some address =>
          if (links.ownerOf address).isSome then .ours circuit (some address) else .mismatch

/-- Judge the value of an option by this relay's identity. -/
def judge (value : Bytes) (kind : IdentityKind) (links : Topology) : Verdict :=
  match subOptions value with
  | none => .invalid
  | some found =>
      match (lastValue circuitTag found).bind circuitOf?, lastValue identityTag found with
      | some circuit, some identity => judgeIdentity kind links circuit identity
      | _, _ => .mismatch

end AgentInfo

end DhcpRelay.Dhcp4
