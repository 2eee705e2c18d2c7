import DhcpRelay.Agent.Basic
import DhcpRelay.Dhcp6.ClientAddress

/-!
# The DHCPv6 relay

Messages of clients and of other relays go to each server of the interface they
came in on, inside an envelope.  Relay-replies are opened and delivered.
-/

namespace DhcpRelay.Relay

/-- Envelopes that crossed this many relays are not sent on. -/
def hopCountLimit : UInt8 := 32

/-- The hop count of the envelope around a message. -/
def nextHopCount (type : Dhcp6.MessageType) (message : Bytes) : Except DropCause UInt8 :=
  if type = .relayForward then
    match Dhcp6.Envelope.decode message with
    | .error fault => .error (.malformed fault)
    | .ok inner =>
        if hopCountLimit ≤ inner.header.hopCount then .error .hopLimitExceeded
        else .ok (inner.header.hopCount + 1)
  else
    .ok 0

/-- The link address of the envelope.  A relay that sends from a global address
has named its own link already. -/
def linkAddress (state : Relay) (type : Dhcp6.MessageType) (source : IPv6)
    (interface : String) : IPv6 :=
  if type ≠ .relayForward ∨ source.isLinkLocal then
    (state.links.ipv6? interface).getD .unspecified
  else
    .unspecified

/-- The client's hardware address, where the settings ask for it. -/
def clientOption (state : Relay) (type : Dhcp6.MessageType) (source : IPv6)
    (message : Bytes) : Except DropCause (Option Mac) :=
  if state.settings.option79Enabled ∧ type ≠ .relayForward then
    match Dhcp6.hardwareAddressOf source message with
    | some mac => .ok (some mac)
    | none => .error .missingClientMac
  else
    .ok none

/-- The envelope in which a message is sent on. -/
def envelope (state : Relay) (type : Dhcp6.MessageType) (source : IPv6) (message : Bytes)
    (index : UInt32) (interface : String) : Except DropCause Dhcp6.Envelope := do
  let hopCount ← nextHopCount type message
  let client ← state.clientOption type source message
  return {
    header := {
      type := Dhcp6.MessageType.relayForward.code
      hopCount := hopCount
      link := state.linkAddress type source interface
      peer := source }
    optionArea := Dhcp6.encodeOptions (Dhcp6.wrappingOptions message index client) }

/-- Send bytes to a server.  A group is reached through its interface, a
link-local server through its interface or else the one the message came in on. -/
def sendToServer6 (state : Relay) (network : Network) (bytes : Bytes) (index : UInt32)
    (interface : String) (server : Server6) : Attempt :=
  let purpose := Purpose.messageToServer6 interface server
  let egress := server.egress.bind state.links.index?
  if server.address.isMulticast then
    match egress with
    | none => .unreachable purpose "egress interface not found"
    | some egress =>
        .send network purpose (.udp6 bytes ⟨server.address, Dhcp6.serverPort, 0⟩ (some egress))
  else
    let scope := if server.address.isLinkLocal then egress.getD index else 0
    .send network purpose (.udp6 bytes ⟨server.address, Dhcp6.serverPort, scope⟩ none)

/-- Relay a message of a client or of another relay. -/
def relayMessage6 (state : Relay) (network : Network) (type : Dhcp6.MessageType)
    (source : IPv6) (message : Bytes) (index : UInt32) (interface : Option String) : Relaying :=
  match interface with
  | none => .error (.unknownInterface index)
  | some interface =>
      let servers := state.servers6.serversOf interface
      if servers.isEmpty then
        .error (.noHelperConfigured interface)
      else do
        let envelope ← state.envelope type source message index interface
        return servers.map fun server =>
          .attempt (state.sendToServer6 network envelope.bytes index interface server)

/-- The scope of a peer on an interface: only link-local addresses need one. -/
def peerScope (delivery : Dhcp6.Delivery) : UInt32 :=
  if delivery.peer.isLinkLocal then delivery.interface else 0

/-- Deliver what a relay-reply carries. -/
def deliver6 (network : Network) (delivery : Dhcp6.Delivery) : Relaying :=
  let destination : Endpoint6 := ⟨delivery.peer, delivery.port, peerScope delivery⟩
  .ok [.attempt (.send network (.replyToPeer6 destination)
    (.udp6 delivery.payload destination none))]

/-- The name of the interface that a relay-reply names. -/
def deliveryInterface (state : Relay) (delivery : Dhcp6.Delivery) : Option String :=
  if delivery.interface = 0 then none else state.links.name? delivery.interface

/-- Handle a message of a server. -/
def receiveFromServer6 (state : Relay) (network : Network) (type : Dhcp6.MessageType)
    (message : Bytes) (ingress : String) (statistics : Statistics) : Handled :=
  let drop (reason : DropCause) : Handled :=
    Relaying.finish (.error reason) statistics ingress .v6ServerRelayed .v6ServerDropped ingress
  if type ≠ .relayReply then
    drop .notRelayReply
  else
    match Dhcp6.Delivery.decode message with
    | .error fault => drop (.undeliverable fault)
    | .ok delivery =>
        let egress := state.deliveryInterface delivery
        (deliver6 network delivery).finish statistics (egress.getD ingress) .v6ServerRelayed
          .v6ServerDropped (counted egress)

/-- Handle a DHCPv6 message that came in on an interface from `source`. -/
def receive6 (state : Relay) (network : Network) (message : Bytes) (source : IPv6)
    (index : UInt32) : Handled :=
  if !state.settings.v6RelayEnabled then
    .dropped .disabled state.statistics
  else
    let interface := state.links.name? index
    let ingress := counted interface
    let statistics := state.statistics.touch ingress
    let bad := statistics.bump ingress .badPackets
    if source.mappedIPv4?.isSome then
      .dropped .v4MappedSource bad
    else
      match Dhcp6.typeOf message with
      | .error fault =>
          .dropped
            (if message.length < Dhcp6.minimumSize then .malformed fault
              else .invalidMessageType)
            bad
      | .ok type =>
          if type.isForServers then
            (state.relayMessage6 network type source message index interface).finish
              statistics ingress .v6ClientRelayed .v6ClientDropped ingress
          else
            state.receiveFromServer6 network type message ingress statistics

end DhcpRelay.Relay
