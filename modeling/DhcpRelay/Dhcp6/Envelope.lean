import DhcpRelay.Address.IPv6
import DhcpRelay.MessageFault
import DhcpRelay.Tlv.Walk

/-!
# DHCPv6 messages and the relay envelope

A relay sends a message on inside an envelope: a header of 34 bytes that names
the link and the peer, followed by options of which one holds the message.
-/

namespace DhcpRelay.Dhcp6

/-- The UDP port of clients. -/
def clientPort : UInt16 := 546

/-- The UDP port of servers and relays. -/
def serverPort : UInt16 := 547

/-- The size of the envelope's header. -/
def envelopeHeaderSize : Nat := 34

/-- The size of the smallest message: type and transaction. -/
def minimumSize : Nat := 4

/-- The kinds of messages. -/
inductive MessageType where
  | solicit
  | advertise
  | request
  | confirm
  | renew
  | rebind
  | reply
  | release
  | decline
  | reconfigure
  | informationRequest
  | relayForward
  | relayReply
  deriving DecidableEq, Repr

namespace MessageType

/-- The number of a kind. -/
def code : MessageType → UInt8
  | solicit => 1
  | advertise => 2
  | request => 3
  | confirm => 4
  | renew => 5
  | rebind => 6
  | reply => 7
  | release => 8
  | decline => 9
  | reconfigure => 10
  | informationRequest => 11
  | relayForward => 12
  | relayReply => 13

/-- All kinds. -/
def all : List MessageType :=
  [solicit, advertise, request, confirm, renew, rebind, reply, release, decline, reconfigure,
    informationRequest, relayForward, relayReply]

/-- The kind with a number. -/
def ofCode? (code : UInt8) : Option MessageType :=
  all.find? (·.code == code)

/-- Sent by clients, or by relays towards servers. -/
def isForServers : MessageType → Bool
  | advertise | reply | reconfigure | relayReply => false
  | _ => true

@[simp] theorem ofCode?_code (type : MessageType) : ofCode? type.code = some type := by
  cases type <;> rfl

end MessageType

/-- The kind of a message. -/
def typeOf (message : Bytes) : Except MessageFault MessageType :=
  if message.length < minimumSize then
    .error (.malformedHeader .dhcp6)
  else
    match MessageType.ofCode? (message.byteAt 0) with
    | some type => .ok type
    | none => .error (.malformedHeader .dhcp6MessageType)

/-! ## Envelopes -/

/-- The header of an envelope, its type as a number. -/
structure EnvelopeHeader where
  type : UInt8
  hopCount : UInt8
  link : IPv6
  peer : IPv6
  deriving DecidableEq, Repr

/-- An envelope: the header and the bytes of its options. -/
structure Envelope where
  header : EnvelopeHeader
  optionArea : Bytes
  deriving DecidableEq, Repr

namespace Envelope

/-- The bytes of an envelope. -/
def bytes (envelope : Envelope) : Bytes :=
  [envelope.header.type, envelope.header.hopCount] ++ envelope.header.link.octets ++
    envelope.header.peer.octets ++ envelope.optionArea

/-- Read an envelope; the type is not looked at. -/
def decode (message : Bytes) : Except MessageFault Envelope :=
  if message.length < envelopeHeaderSize then
    .error (.malformedHeader .dhcp6Relay)
  else
    .ok {
      header := {
        type := message.byteAt 0
        hopCount := message.byteAt 1
        link := IPv6.readAt message 2
        peer := IPv6.readAt message 18 }
      optionArea := message.drop envelopeHeaderSize }

/-- The walk over the options. -/
def walk (envelope : Envelope) : Walk :=
  Framing.dhcp6.walk envelope.optionArea

end Envelope

/-- The bytes of a list of options. -/
def encodeOptions (options : List (UInt16 × Bytes)) : Bytes :=
  options.flatMap fun (code, value) => Tlv.encode6 code value

end DhcpRelay.Dhcp6
