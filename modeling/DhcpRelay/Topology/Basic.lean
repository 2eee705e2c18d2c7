import DhcpRelay.Address.IPv6
import DhcpRelay.Address.Mac

/-!
# The interfaces of this machine

A topology answers the questions that relaying asks about interfaces.  They are
ordered by index; where several fit, the first one counts.
-/

namespace DhcpRelay

/-- An interface with its addresses. -/
structure Link where
  index : UInt32
  name : String
  mac : Option Mac
  loopback : Bool
  ipv4 : List Subnet
  ipv6 : List IPv6
  deriving DecidableEq, Repr

namespace Link

/-- The address by which an interface is named to servers: a global one if there
is any, else a link-local one. -/
def preferredIPv6 (link : Link) : Option IPv6 :=
  match link.ipv6.find? fun address => !address.isLinkLocal && !address.isLoopback with
  | some address => some address
  | none => link.ipv6.find? (·.isLinkLocal)

end Link

/-- The interfaces in the order of their indices, and the hardware address by
which this machine is known. -/
structure Topology where
  links : List Link
  ownMac : Mac
  deriving DecidableEq, Repr

namespace Topology

/-- The hardware address of the first interface that has one and is not a
loopback. -/
def defaultMac (links : List Link) : Mac :=
  let known := (links.filter (!·.loopback)).filterMap (·.mac)
  (known.find? (·.isKnown)).getD Mac.zero

/-- The topology of these interfaces. -/
def ofLinks (links : List Link) : Topology :=
  let ordered := links.mergeSort fun left right => left.index ≤ right.index
  ⟨ordered, defaultMac ordered⟩

/-- The same interfaces under another hardware address. -/
def withMac (topology : Topology) (mac : Mac) : Topology :=
  { topology with ownMac := mac }

def named (topology : Topology) (name : String) : Option Link :=
  topology.links.find? (·.name == name)

def numbered (topology : Topology) (index : UInt32) : Option Link :=
  topology.links.find? (·.index == index)

/-- The name of the interface with an index. -/
def name? (topology : Topology) (index : UInt32) : Option String :=
  (topology.numbered index).map (·.name)

/-- The index of the interface with a name. -/
def index? (topology : Topology) (name : String) : Option UInt32 :=
  (topology.named name).map (·.index)

/-- The first IPv4 address of an interface. -/
def ipv4? (topology : Topology) (name : String) : Option IPv4 :=
  (topology.named name).bind fun link => link.ipv4.head?.map (·.address)

/-- The preferred IPv6 address of an interface. -/
def ipv6? (topology : Topology) (name : String) : Option IPv6 :=
  (topology.named name).bind (·.preferredIPv6)

/-- The index of the interface that owns an IPv4 address. -/
def ownerOf (topology : Topology) (address : IPv4) : Option UInt32 :=
  (topology.links.find? (·.ipv4.any (·.address == address))).map (·.index)

/-- The address is the directed broadcast address of a network of this machine. -/
def isDirectedBroadcast (topology : Topology) (address : IPv4) : Bool :=
  topology.links.any (·.ipv4.any (·.hasBroadcast address))

end Topology

end DhcpRelay
