import DhcpRelay.Address.IPv6
import DhcpRelay.Dhcp4.Message

/-!
# Servers

A DHCPv4 server or forwarding target is an address with a port.  A DHCPv6 server
is an address, and for a multicast group the interface to reach it through.
-/

namespace DhcpRelay

/-- A DHCPv4 server, or a target of the broadcast forwarder. -/
structure Server4 where
  address : IPv4
  port : UInt16
  deriving DecidableEq, Repr

namespace Server4

/-- A DHCPv4 server. -/
def dhcp (address : IPv4) : Server4 :=
  ⟨address, Dhcp4.serverPort⟩

/-- The text `address:port`. -/
def text (server : Server4) : String :=
  server.address.text ++ ":" ++ Decimal.text server.port.toNat

instance : ToString Server4 := ⟨text⟩

end Server4

/-- A DHCPv6 server or group. -/
structure Server6 where
  address : IPv6
  egress : Option String
  deriving DecidableEq, Repr

namespace Server6

/-- The text `address`, or `address via interface`. -/
def text (server : Server6) : String :=
  match server.egress with
  | some egress => server.address.text ++ " via " ++ egress
  | none => server.address.text

instance : ToString Server6 := ⟨text⟩

end Server6

end DhcpRelay
