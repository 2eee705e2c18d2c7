import DhcpRelay.SystemFault
import DhcpRelay.Topology.Basic

/-!
# Membership in the group of relay agents

A socket is a member of the group on some interfaces.  Index zero leaves the
choice of the interface to the system: it fits any membership, and the system
has no interface of its own to offer for it.
-/

namespace DhcpRelay

/-- The interfaces a socket is a member on, the last one joined first, among the
interfaces that the system has. -/
structure GroupSocket where
  devices : List UInt32
  members : List UInt32
  deriving DecidableEq, Repr

namespace GroupSocket

/-- A socket that joined nothing. -/
def unbound (devices : List UInt32) : GroupSocket :=
  ⟨devices, []⟩

/-- The index of an interface of this machine. -/
def index? (links : Topology) (interface : String) : Except SystemFault UInt32 :=
  match links.index? interface with
  | some index => .ok index
  | none => .error ⟨.notFound, s!"interface {interface} not found"⟩

/-- A membership fits an index. -/
def fits (index member : UInt32) : Bool :=
  index == 0 || index == member

/-- Join the group on an interface. -/
def join (socket : GroupSocket) (links : Topology) (interface : String) :
    Except SystemFault GroupSocket := do
  let index ← index? links interface
  if socket.members.any (fits index) then
    .error .addressInUse
  else if index ∈ socket.devices then
    .ok { socket with members := index :: socket.members }
  else
    .error .noSuchDevice

/-- Leave the group on an interface. -/
def leave (socket : GroupSocket) (links : Topology) (interface : String) :
    Except SystemFault GroupSocket := do
  let index ← index? links interface
  if socket.members.any (fits index) then
    .ok { socket with members := socket.members.eraseP (fits index) }
  else
    .error .addressNotAvailable

end GroupSocket

end DhcpRelay
