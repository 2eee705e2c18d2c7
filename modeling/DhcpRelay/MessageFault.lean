/-!
# Faults of received messages

Every reader of a message answers with a `MessageFault`.  Their texts appear in
replies and log lines.
-/

namespace DhcpRelay

/-- The part of a message that cannot be what it should be. -/
inductive HeaderPart where
  | bootp
  | bootpOperation
  | dhcp6
  | dhcp6MessageType
  | dhcp6Relay
  | ipv4
  | notUdp
  | fragmented
  | udp
  | datagramTooLong
  | maximumMessageSize
  deriving DecidableEq, Repr

/-- The words for a header part. -/
def HeaderPart.text : HeaderPart → String
  | bootp => "bootp"
  | bootpOperation => "bootp op"
  | dhcp6 => "dhcpv6"
  | dhcp6MessageType => "dhcpv6 message type"
  | dhcp6Relay => "dhcpv6 relay"
  | ipv4 => "ipv4"
  | notUdp => "not udp"
  | fragmented => "fragmented"
  | udp => "udp"
  | datagramTooLong => "datagram too long"
  | maximumMessageSize => "maximum message size"

/-- Why a message cannot be read or written. -/
inductive MessageFault where
  | malformedHeader (part : HeaderPart)
  | notDhcp
  | truncatedOption (offset : Nat)
  | bufferTooSmall (needed available : Nat)
  deriving DecidableEq, Repr

/-- The text of a fault. -/
def MessageFault.message : MessageFault → String
  | malformedHeader part => "malformed header: " ++ part.text
  | notDhcp => "not a DHCP packet (magic cookie absent)"
  | truncatedOption offset => s!"option truncated at offset {offset}"
  | bufferTooSmall needed available =>
      s!"buffer too small: need {needed} bytes, have {available}"

end DhcpRelay
