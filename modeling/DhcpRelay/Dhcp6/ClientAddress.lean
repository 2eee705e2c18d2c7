import DhcpRelay.Dhcp6.Delivery

/-!
# The hardware address of a DHCPv6 client

A client's Ethernet address is found in its identifier, if that was made from
one, or in the link-local address it sends from.
-/

namespace DhcpRelay.Dhcp6

/-- The kind of identifier made from a link-layer address and a time. -/
def linkLayerTimeIdentifier : UInt16 := 1

/-- The kind of identifier made from a link-layer address alone. -/
def linkLayerIdentifier : UInt16 := 3

/-- The identifier made from an Ethernet address alone. -/
def identifierOf (mac : Mac) : Bytes :=
  Bytes.ofWord16 linkLayerIdentifier ++ Bytes.ofWord16 ethernet ++ mac.octets

/-- The Ethernet address in an identifier. -/
def identifierMac? (identifier : Bytes) : Option Mac :=
  if identifier.length < 4 ∨ identifier.word16At 2 ≠ ethernet then
    none
  else if identifier.word16At 0 = linkLayerTimeIdentifier then
    Mac.ofOctets? (identifier.drop 8)
  else if identifier.word16At 0 = linkLayerIdentifier then
    Mac.ofOctets? (identifier.drop 4)
  else
    none

/-- The first client identifier of a message, as far as its options can be read. -/
def clientIdentifier (message : Bytes) : Option Bytes :=
  if message.length < minimumSize then
    none
  else
    ((Framing.dhcp6.walk (message.drop minimumSize)).find? clientIdCode).map (·.value)

/-- The Ethernet address in a modified EUI-64 interface identifier. -/
def eui64Mac? (address : IPv6) : Option Mac :=
  if address.octet 11 = 255 ∧ address.octet 12 = 254 then
    Mac.ofOctets? [address.octet 8 ^^^ 2, address.octet 9, address.octet 10,
      address.octet 13, address.octet 14, address.octet 15]
  else
    none

/-- The Ethernet address of the client that sent a message from `source`. -/
def hardwareAddressOf (source : IPv6) (message : Bytes) : Option Mac :=
  match (clientIdentifier message).bind identifierMac? with
  | some mac => some mac
  | none => if source.isLinkLocal then eui64Mac? source else none

end DhcpRelay.Dhcp6
