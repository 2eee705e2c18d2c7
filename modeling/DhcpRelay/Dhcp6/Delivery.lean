import DhcpRelay.Address.Mac
import DhcpRelay.Dhcp6.Envelope

/-!
# Wrapping and unwrapping DHCPv6 messages

Towards servers a message travels in the Relay-Message option of an envelope,
next to the index of the interface it came in on and, if asked for, the client's
link-layer address.  A reply comes back in the same form and says what to
deliver, to whom and through which interface.
-/

namespace DhcpRelay.Dhcp6

/-- The code of the client identifier option. -/
def clientIdCode : UInt16 := 1

/-- The code of the option that holds the relayed message. -/
def relayMessageCode : UInt16 := 9

/-- The code of the option that names the client's interface. -/
def interfaceIdCode : UInt16 := 18

/-- The code of the client link-layer address option. -/
def linkLayerCode : UInt16 := 79

/-- The hardware type of Ethernet. -/
def ethernet : UInt16 := 1

/-- Longer relayed messages are passed over. -/
def relayMessageLimit : Nat := 1024

/-- The options around a message that came in on an interface. -/
def wrappingOptions (message : Bytes) (interface : UInt32) (client : Option Mac) :
    List (UInt16 × Bytes) :=
  [(relayMessageCode, message), (interfaceIdCode, Bytes.ofWord32 interface)] ++
    match client with
    | none => []
    | some mac => [(linkLayerCode, Bytes.ofWord16 ethernet ++ mac.octets)]

/-- Why a relay-reply cannot be delivered. -/
inductive DeliveryFault where
  | missingRelayMessage
  | ambiguousClientInterface
  | malformed (fault : MessageFault)
  deriving DecidableEq, Repr

/-- The text of a fault. -/
def DeliveryFault.message : DeliveryFault → String
  | missingRelayMessage => "relay-reply carries no usable relay message"
  | ambiguousClientInterface => "client address is link-local and no interface-id was given"
  | malformed fault => "malformed relay options: " ++ fault.message

/-- What a relay-reply asks for: send `payload` to `peer`.  Interface zero means
that none was named. -/
structure Delivery where
  payload : Bytes
  interface : UInt32
  peer : IPv6
  deriving DecidableEq, Repr

namespace Delivery

/-- The payload is a relay-reply for the next relay. -/
def toRelay (delivery : Delivery) : Bool :=
  delivery.payload.head? == some MessageType.relayReply.code

/-- The port that the payload is sent to. -/
def port (delivery : Delivery) : UInt16 :=
  if delivery.toRelay then serverPort else clientPort

/-- The value of a relay message option that can be delivered. -/
def usableMessage (option : Tlv) : Option Bytes :=
  if option.code = relayMessageCode ∧ 1 ≤ option.value.length ∧
      option.value.length ≤ relayMessageLimit then
    some option.value
  else
    none

/-- The interface that an option names: up to four bytes, read as one number. -/
def namedInterface (option : Tlv) : Option UInt32 :=
  if option.code = interfaceIdCode ∧ option.value.length ≤ 4 then
    some (UInt32.ofNat (Bytes.number option.value))
  else
    none

/-- What the options of an envelope ask for.  Of several messages or interfaces
the last one counts. -/
def ofOptions (peer : IPv6) (walk : Walk) : Except DeliveryFault Delivery :=
  match walk.truncation? with
  | some offset => .error (.malformed (.truncatedOption offset))
  | none =>
      match (walk.options.filterMap usableMessage).getLast? with
      | none => .error .missingRelayMessage
      | some payload =>
          let interface := (walk.options.filterMap namedInterface).getLast?.getD 0
          if peer.isLinkLocal && interface == 0 then
            .error .ambiguousClientInterface
          else
            .ok ⟨payload, interface, peer⟩

/-- Read a relay-reply. -/
def decode (message : Bytes) : Except DeliveryFault Delivery :=
  match Envelope.decode message with
  | .error fault => .error (.malformed fault)
  | .ok envelope => ofOptions envelope.header.peer envelope.walk

end Delivery

end DhcpRelay.Dhcp6
