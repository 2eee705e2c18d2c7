import DhcpRelay.Agent.Dhcp6
import DhcpRelay.Proofs.Guarded.Dhcp6
import DhcpRelay.Proofs.Guarded.Relay4

/-!
# The DHCPv6 relay with guards

With it all handling of packets is guarded.  None of the guards ever refuses anything,
whatever the bytes are that come in, so what is relayed is read within bounds.
-/

namespace DhcpRelay.Guarded

/-! ## Messages for servers -/

/-- The hop count of the envelope around a message. -/
def nextHopCount (type : Dhcp6.MessageType) (message : Bytes) :
    Guard (Except DropCause UInt8) := do
  if type = .relayForward then
    if message.length < Dhcp6.envelopeHeaderSize then
      return .error (.malformed (.malformedHeader .dhcp6Relay))
    else
      let hopCount ← byte message 1
      if Relay.hopCountLimit ≤ hopCount then return .error .hopLimitExceeded
      else return .ok (← increment hopCount)
  else
    return .ok 0

/-- The client's hardware address, where the settings ask for it. -/
def clientOption (state : Relay) (type : Dhcp6.MessageType) (source : IPv6) (message : Bytes) :
    Guard (Except DropCause (Option Mac)) := do
  if state.settings.option79Enabled ∧ type ≠ .relayForward then
    match ← hardwareAddressOf source message with
    | some mac => return .ok (some mac)
    | none => return .error .missingClientMac
  else
    return .ok none

/-- The option that holds the client's address, if that is known. -/
def linkLayerOptions : Option Mac → Guard (List (UInt16 × Bytes))
  | none => .ok []
  | some mac => return [(Dhcp6.linkLayerCode, ← linkLayerValue mac)]

/-- The options around a message that came in on an interface. -/
def wrappingOptions (message : Bytes) (interface : UInt32) (client : Option Mac) :
    Guard (List (UInt16 × Bytes)) := do
  return [(Dhcp6.relayMessageCode, message),
    (Dhcp6.interfaceIdCode, Bytes.ofWord32 interface)] ++ (← linkLayerOptions client)

/-- The envelope in which a message is sent on. -/
def envelope (state : Relay) (type : Dhcp6.MessageType) (source : IPv6) (message : Bytes)
    (index : UInt32) (interface : String) : Guard (Except DropCause Dhcp6.Envelope) :=
  proceed (nextHopCount type message) fun hopCount =>
    proceed (clientOption state type source message) fun client => do
      let options ← wrappingOptions message index client
      return .ok {
        header := {
          type := Dhcp6.MessageType.relayForward.code
          hopCount := hopCount
          link := state.linkAddress type source interface
          peer := source }
        optionArea := Dhcp6.encodeOptions options }

/-- Relay a message of a client or of another relay. -/
def relayMessage6 (state : Relay) (network : Network) (type : Dhcp6.MessageType)
    (source : IPv6) (message : Bytes) (index : UInt32) (interface : Option String) :
    Guard Relaying := do
  match interface with
  | none => return .error (.unknownInterface index)
  | some interface =>
      let servers := state.servers6.serversOf interface
      if servers.isEmpty then
        return .error (.noHelperConfigured interface)
      else
        proceed (envelope state type source message index interface) fun envelope =>
          return .ok <| servers.map fun server =>
            .attempt (state.sendToServer6 network envelope.bytes index interface server)

theorem nextHopCount_eq (type : Dhcp6.MessageType) (message : Bytes) :
    nextHopCount type message = .ok (Relay.nextHopCount type message) := by
  rw [nextHopCount, Relay.nextHopCount, Dhcp6.Envelope.decode]
  by_cases inner : type = .relayForward
  · rw [if_pos inner, if_pos inner]
    by_cases short : message.length < Dhcp6.envelopeHeaderSize
    · rw [if_pos short, if_pos short]
      rfl
    · have size : 34 ≤ message.length := Nat.not_lt.1 short
      rw [if_neg short, if_neg short, byte_eq (by omega), ok_bind]
      dsimp only
      by_cases exceeded : Relay.hopCountLimit ≤ message.byteAt 1
      · rw [if_pos exceeded, if_pos exceeded]
        rfl
      · have within : message.byteAt 1 ≤ Relay.hopCountLimit :=
          UInt8.le_of_lt (UInt8.not_le.1 exceeded)
        rw [if_neg exceeded, if_neg exceeded, increment_eq within (by decide)]
        rfl
  · rw [if_neg inner, if_neg inner]
    rfl

theorem clientOption_eq (state : Relay) (type : Dhcp6.MessageType) (source : IPv6)
    (message : Bytes) :
    clientOption state type source message = .ok (state.clientOption type source message) := by
  rw [clientOption, Relay.clientOption, hardwareAddressOf_eq, ok_bind]
  split
  · cases Dhcp6.hardwareAddressOf source message <;> rfl
  · rfl

theorem wrappingOptions_eq (message : Bytes) (interface : UInt32) (client : Option Mac) :
    wrappingOptions message interface client =
      .ok (Dhcp6.wrappingOptions message interface client) := by
  cases client with
  | none => rfl
  | some mac =>
      rw [wrappingOptions, linkLayerOptions, linkLayerValue_eq]
      rfl

theorem envelope_eq (state : Relay) (type : Dhcp6.MessageType) (source : IPv6)
    (message : Bytes) (index : UInt32) (interface : String) :
    envelope state type source message index interface =
      .ok (state.envelope type source message index interface) := by
  rw [envelope, nextHopCount_eq]
  refine proceed_eq fun hopCount _ => ?_
  rw [clientOption_eq]
  refine proceed_eq fun client _ => ?_
  rw [wrappingOptions_eq]
  rfl

theorem relayMessage6_eq (state : Relay) (network : Network) (type : Dhcp6.MessageType)
    (source : IPv6) (message : Bytes) (index : UInt32) (interface : Option String) :
    relayMessage6 state network type source message index interface =
      .ok (state.relayMessage6 network type source message index interface) := by
  cases interface with
  | none => rfl
  | some interface =>
      rw [relayMessage6, Relay.relayMessage6]
      split
      · rfl
      · rw [envelope_eq]
        exact proceed_eq fun envelope _ => rfl

/-! ## Messages of servers -/

/-- Handle a message of a server. -/
def receiveFromServer6 (state : Relay) (network : Network) (type : Dhcp6.MessageType)
    (message : Bytes) (ingress : String) (statistics : Statistics) : Guard Handled := do
  let drop (reason : DropCause) : Handled :=
    Relaying.finish (.error reason) statistics ingress .v6ServerRelayed .v6ServerDropped ingress
  if type ≠ .relayReply then
    return drop .notRelayReply
  else
    match ← decodeDelivery message with
    | .error fault => return drop (.undeliverable fault)
    | .ok (delivery, port) =>
        let egress := state.deliveryInterface delivery
        let destination : Endpoint6 := ⟨delivery.peer, port, Relay.peerScope delivery⟩
        let attempt : Attempt :=
          .send network (.replyToPeer6 destination) (.udp6 delivery.payload destination none)
        return Relaying.finish (.ok [.attempt attempt]) statistics (egress.getD ingress)
          .v6ServerRelayed .v6ServerDropped (Relay.counted egress)

/-- Handle a DHCPv6 message that came in on an interface from `source`. -/
def receive6 (state : Relay) (network : Network) (message : Bytes) (source : IPv6)
    (index : UInt32) : Guard Handled := do
  if !state.settings.v6RelayEnabled then
    return .dropped .disabled state.statistics
  else
    let interface := state.links.name? index
    let ingress := Relay.counted interface
    let statistics := state.statistics.touch ingress
    let bad := statistics.bump ingress .badPackets
    if source.mappedIPv4?.isSome then
      return .dropped .v4MappedSource bad
    else
      match ← typeOf6 message with
      | .error fault =>
          return .dropped
            (if message.length < Dhcp6.minimumSize then .malformed fault
              else .invalidMessageType)
            bad
      | .ok type =>
          if type.isForServers then
            let relaying ← relayMessage6 state network type source message index interface
            return relaying.finish statistics ingress .v6ClientRelayed .v6ClientDropped ingress
          else
            receiveFromServer6 state network type message ingress statistics

theorem receiveFromServer6_eq (state : Relay) (network : Network) (type : Dhcp6.MessageType)
    (message : Bytes) (ingress : String) (statistics : Statistics) :
    receiveFromServer6 state network type message ingress statistics =
      .ok (state.receiveFromServer6 network type message ingress statistics) := by
  rw [receiveFromServer6, Relay.receiveFromServer6, decodeDelivery_eq, ok_bind]
  split
  · rfl
  · cases Dhcp6.Delivery.decode message <;> rfl

theorem receive6_eq (state : Relay) (network : Network) (message : Bytes) (source : IPv6)
    (index : UInt32) :
    receive6 state network message source index =
      .ok (state.receive6 network message source index) := by
  rw [receive6, Relay.receive6, typeOf6_eq]
  split
  · rfl
  · dsimp only
    split
    · rfl
    · rw [ok_bind]
      cases Dhcp6.typeOf message with
      | error fault => rfl
      | ok type =>
          dsimp only
          rw [relayMessage6_eq, ok_bind, receiveFromServer6_eq]
          split <;> rfl

/-! ## All packets -/

/-- No guard refuses anything, whatever comes in: every byte and every slice is within
bounds, nothing is subtracted from less, and no byte counts past its last value. -/
theorem receive_within_bounds (state : Relay) (network : Network) (datagram message : Bytes)
    (source : IPv6) (index : UInt32) :
    receive4 state network datagram index = .ok (state.receive4 network datagram index) ∧
      receive6 state network message source index =
        .ok (state.receive6 network message source index) := by
  constructor
  · exact receive4_eq state network datagram index
  · exact receive6_eq state network message source index

end DhcpRelay.Guarded
