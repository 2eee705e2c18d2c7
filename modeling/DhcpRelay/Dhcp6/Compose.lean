import DhcpRelay.Dhcp6.ClientAddress

/-!
# Composing DHCPv6 messages

Messages as clients, relays and servers send them.
-/

namespace DhcpRelay.Dhcp6

/-- A client message; the transaction is the low three bytes. -/
def clientMessage (type : MessageType) (transaction : UInt32)
    (options : List (UInt16 × Bytes)) : Bytes :=
  type.code :: (Bytes.ofWord32 transaction).drop 1 ++ encodeOptions options

/-- A solicit message of a client that is identified by its Ethernet address. -/
def solicit (mac : Mac) (transaction : UInt32) : Bytes :=
  clientMessage .solicit transaction [(clientIdCode, identifierOf mac)]

/-- A message inside the envelope of a relay. -/
def relayedMessage (hopCount : UInt8) (link peer : IPv6) (inner : Bytes) : Bytes :=
  Envelope.bytes
    ⟨⟨MessageType.relayForward.code, hopCount, link, peer⟩,
      encodeOptions [(relayMessageCode, inner)]⟩

/-- The answer of a server for a peer, behind an interface if one is given. -/
def replyFor (peer : IPv6) (interface : Option UInt32) (inner : Bytes) : Bytes :=
  let interfaceOption := interface.toList.map fun index =>
    (interfaceIdCode, Bytes.ofWord32 index)
  Envelope.bytes
    ⟨⟨MessageType.relayReply.code, 0, .unspecified, peer⟩,
      encodeOptions (interfaceOption ++ [(relayMessageCode, inner)])⟩

end DhcpRelay.Dhcp6
