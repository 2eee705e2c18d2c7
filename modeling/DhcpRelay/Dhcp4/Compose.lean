import DhcpRelay.Address.Mac
import DhcpRelay.Dhcp4.Message

/-!
# Composing DHCPv4 messages

Messages as clients and servers send them: an Ethernet address, a few header
fields and the options in the order of their codes.
-/

namespace DhcpRelay.Dhcp4

/-- The header fields of a message that differ from zero. -/
structure Fields where
  operation : UInt8
  transaction : UInt32
  flags : UInt16
  yourAddress : IPv4
  relayAddress : IPv4
  client : Mac

/-- The bytes of a message, not shorter than messages have to be. -/
def compose (fields : Fields) (options : List (UInt8 × Bytes)) : Bytes :=
  let header := [fields.operation, 1, 6, 0] ++ Bytes.ofWord32 fields.transaction ++
    [0, 0] ++ Bytes.ofWord16 fields.flags ++ IPv4.unspecified.octets ++
    fields.yourAddress.octets ++ IPv4.unspecified.octets ++ fields.relayAddress.octets ++
    fields.client.octets
  Bytes.padTo
    (Bytes.padTo header headerSize ++ magicCookie ++
      options.flatMap (fun (code, value) => Tlv.encode4 code value) ++ [endCode])
    minimumSize

/-- The server that composed replies name. -/
def sampleServer : IPv4 := ⟨10, 0, 0, 5⟩

/-- A request that asks for a broadcast reply. -/
def clientRequest (type : UInt8) (client : Mac) (transaction : UInt32) : Bytes :=
  compose ⟨requestOperation, transaction, 32768, .unspecified, .unspecified, client⟩
    [(53, [type])]

/-- A reply that assigns an address, by way of a relay. -/
def serverReply (type : UInt8) (client : Mac) (transaction : UInt32)
    (yourAddress relayAddress : IPv4) : Bytes :=
  compose ⟨replyOperation, transaction, 0, yourAddress, relayAddress, client⟩
    [(53, [type]), (54, sampleServer.octets)]

/-- The message with bytes put in before its end marker, or at its end. -/
def withOptionBytes (message option : Bytes) : Bytes :=
  let position :=
    match (optionWalk message).ending with
    | .marker _ offset => optionsStart + offset
    | _ => message.length
  message.take position ++ option ++ message.drop position

end DhcpRelay.Dhcp4
