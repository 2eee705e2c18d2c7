import DhcpRelay.Address.IPv4
import DhcpRelay.MessageFault
import DhcpRelay.Tlv.Overload

/-!
# DHCPv4 messages

A message is a BOOTP header of 236 bytes, then, for DHCP, a magic cookie and an
option area.  Fields are read off the bytes; past the end they read as zero, and
`checkHeader` tells whether the whole header is there.
-/

namespace DhcpRelay.Dhcp4

/-- The operation of client requests. -/
def requestOperation : UInt8 := 1

/-- The operation of server replies. -/
def replyOperation : UInt8 := 2

/-- The UDP port of servers and relays. -/
def serverPort : UInt16 := 67

/-- The UDP port of clients. -/
def clientPort : UInt16 := 68

/-- The four bytes between the header and the options. -/
def magicCookie : Bytes := [99, 130, 83, 99]

/-- The size of the header. -/
def headerSize : Nat := 236

/-- Where the options start. -/
def optionsStart : Nat := 240

/-- Relays do not send messages that are shorter. -/
def minimumSize : Nat := 300

/-- The code of the message type option. -/
def messageTypeCode : UInt16 := 53

/-- The code of the maximum message size option. -/
def maximumSizeCode : UInt16 := 57

/-- The code of the relay agent information option. -/
def agentInfoCode : UInt16 := 82

/-- The message type of an acknowledgement. -/
def acknowledgement : UInt8 := 5

/-- The message type of a refusal. -/
def refusal : UInt8 := 6

/-! ## Header fields -/

def operation (message : Bytes) : UInt8 := message.byteAt 0

def hardwareType (message : Bytes) : UInt8 := message.byteAt 1

def hardwareLength (message : Bytes) : UInt8 := message.byteAt 2

def hops (message : Bytes) : UInt8 := message.byteAt 3

def transaction (message : Bytes) : UInt32 := message.word32At 4

def flags (message : Bytes) : UInt16 := message.word16At 10

/-- The client wants the reply broadcast. -/
def wantsBroadcast (message : Bytes) : Bool := 32768 ≤ (flags message).toNat

/-- The address a client already uses. -/
def clientAddress (message : Bytes) : IPv4 := IPv4.readAt message 12

/-- The address a server assigns. -/
def yourAddress (message : Bytes) : IPv4 := IPv4.readAt message 16

/-- The address of the first relay a request crossed. -/
def relayAddress (message : Bytes) : IPv4 := IPv4.readAt message 24

/-- The client's hardware address: as many bytes as the header says, at most the
sixteen of the field. -/
def hardwareAddress (message : Bytes) : Bytes :=
  message.slice 28 (28 + min (hardwareLength message).toNat 16)

/-- The `sname` field. -/
def serverName (message : Bytes) : Bytes := message.slice 44 108

/-- The `file` field. -/
def bootFile (message : Bytes) : Bytes := message.slice 108 236

/-- The message with another hop count. -/
def withHops (message : Bytes) (hops : UInt8) : Bytes := message.set 3 hops

/-- The message with another relay address. -/
def withRelayAddress (message : Bytes) (address : IPv4) : Bytes :=
  message.overwrite 24 address.octets

/-! ## The option area -/

/-- The magic cookie follows the header. -/
def hasCookie (message : Bytes) : Bool :=
  message.slice headerSize optionsStart == magicCookie

/-- The option area; plain BOOTP has none. -/
def optionArea (message : Bytes) : Bytes :=
  if hasCookie message then message.drop optionsStart else []

/-- The walk over the option area. -/
def optionWalk (message : Bytes) : Walk :=
  Framing.dhcp4.walk (message.drop optionsStart)

/-- The value of the first option `code` of an area, as far as it can be read. -/
def optionIn? (area : Bytes) (code : UInt16) : Option Bytes :=
  ((Framing.dhcp4.walk area).find? code).map (·.value)

/-- The value of an option, looked for in the option area and then in the header
fields that carry options.  A truncated area without the option hides them. -/
def option? (message : Bytes) (code : UInt16) : Option Bytes :=
  match search (optionArea message) code with
  | .error _ => none
  | .ok ⟨some option, _⟩ => some option.value
  | .ok ⟨none, overload⟩ =>
      let inFile := if overload.usesFile then optionIn? (bootFile message) code else none
      match inFile with
      | some value => some value
      | none => if overload.usesSname then optionIn? (serverName message) code else none

/-- The value of the message type option. -/
def typeOf (message : Bytes) : Option UInt8 :=
  (option? message messageTypeCode).bind (·.head?)

/-- Check that the whole header is there. -/
def checkHeader (message : Bytes) : Except MessageFault Unit :=
  if message.length < headerSize then .error (.malformedHeader .bootp) else .ok ()

/-- Check that a message is DHCP and not plain BOOTP. -/
def check (message : Bytes) : Except MessageFault Unit := do
  checkHeader message
  if hasCookie message then .ok () else .error .notDhcp

end DhcpRelay.Dhcp4
