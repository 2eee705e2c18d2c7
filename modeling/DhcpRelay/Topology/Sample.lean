import DhcpRelay.Topology.Basic

/-!
# A small network

Four interfaces: a way to the servers, two client segments and one interface
without addresses.
-/

namespace DhcpRelay.Topology

/-- An interface given by texts; what is no address is left out. -/
def plainLink (index : UInt32) (name : String) (ipv4 : Option String) (ipv6 : List String) :
    Link where
  index := index
  name := name
  mac := none
  loopback := false
  ipv4 := (ipv4.bind Subnet.read).toList
  ipv6 := ipv6.filterMap IPv6.read

/-- The network of four interfaces. -/
def sample : Topology :=
  (ofLinks [
    plainLink 2 "eth0" (some "10.0.0.1/24") ["2001:db8::1"],
    plainLink 3 "eth1" (some "192.168.1.1/24") ["fe80::1", "2001:db8:1::1"],
    plainLink 4 "eth2" (some "192.168.2.1/24") ["fe80::2"],
    plainLink 5 "eth3" none []]).withMac ⟨[2, 0, 0, 0, 0, 1], rfl⟩

end DhcpRelay.Topology
