import DhcpRelay.Agent.Dhcp6
import DhcpRelay.Dhcp6.Compose
import DhcpRelay.Proofs.Agent.Dispatch
import DhcpRelay.Proofs.Agent.FanOut
import DhcpRelay.Proofs.CursorWalk
import DhcpRelay.Proofs.Dhcp6.Envelope

/-!
# The way of a DHCPv6 message to the servers

A message for servers stays, or it goes out in one envelope to each server of its
interface.  What is sent is read back: the header names the source and counts the
relays, the options hold the message as it was received and the interface it came in on.
-/

namespace DhcpRelay.Relay

open Dhcp6

variable {state : Relay} {network : Network} {type : MessageType} {source : IPv6}
  {message : Bytes} {index : UInt32} {interface : String}

/-! ## The envelope -/

/-- The link-layer address that goes with a message, where the settings ask for it. -/
def clientAddress (state : Relay) (type : MessageType) (source : IPv6) (message : Bytes) :
    Option Mac :=
  if state.settings.option79Enabled ∧ type ≠ .relayForward then
    hardwareAddressOf source message
  else
    none

/-- The message is not an envelope that is cut short or has crossed too many relays. -/
def MayCross (type : MessageType) (message : Bytes) : Prop :=
  type = .relayForward → envelopeHeaderSize ≤ message.length ∧ message.byteAt 1 < hopCountLimit

/-- The link-layer address of the client is known, where the settings ask for it. -/
def IsIdentified (state : Relay) (type : MessageType) (source : IPv6) (message : Bytes) : Prop :=
  state.settings.option79Enabled = true → type ≠ .relayForward →
    hardwareAddressOf source message ≠ none

/-- A message goes out from an interface that has DHCPv6 servers, unless it has crossed
too many relays or its client cannot be identified. -/
structure GoesOut6 (state : Relay) (type : MessageType) (source : IPv6) (message : Bytes)
    (index : UInt32) (interface : String) : Prop where
  enabled : state.settings.v6RelayEnabled = true
  unmapped : source.mappedIPv4? = none
  named : state.links.name? index = some interface
  served : state.servers6.serversOf interface ≠ []
  mayCross : MayCross type message
  identified : state.IsIdentified type source message

theorem nextHopCount_of_mayCross (mayCross : MayCross type message) :
    nextHopCount type message =
      .ok (if type = .relayForward then message.byteAt 1 + 1 else 0) := by
  rw [nextHopCount]
  by_cases inner : type = .relayForward
  · rcases mayCross inner with ⟨whole, few⟩
    rw [if_pos inner, if_pos inner, Envelope.decode, if_neg (Nat.not_lt.2 whole)]
    exact if_neg (UInt8.not_le.2 few)
  · rw [if_neg inner, if_neg inner]

theorem nextHopCount_of_not_mayCross (stuck : ¬ MayCross type message) :
    ∃ reason, nextHopCount type message = .error reason ∧ reason ≠ .sendFailed := by
  rw [MayCross] at stuck
  push Not at stuck
  rcases stuck with ⟨inner, stuck⟩
  rw [nextHopCount, if_pos inner, Envelope.decode]
  by_cases whole : envelopeHeaderSize ≤ message.length
  · have exceeded := UInt8.not_lt.1 (stuck whole)
    rw [if_neg (Nat.not_lt.2 whole)]
    dsimp only
    rw [if_pos exceeded]
    exact ⟨_, rfl, by simp⟩
  · rw [if_pos (Nat.not_le.1 whole)]
    exact ⟨_, rfl, by simp⟩

/-- The hop count of the envelope does not wrap around. -/
theorem hopCount_of_mayCross (mayCross : MayCross type message) :
    let hopCount := if type = .relayForward then message.byteAt 1 + 1 else 0
    hopCount.toNat = (if type = .relayForward then (message.byteAt 1).toNat + 1 else 0) ∧
      hopCount ≤ hopCountLimit := by
  intro hopCount
  by_cases inner : type = .relayForward
  · have few : (message.byteAt 1).toNat < 32 := UInt8.lt_iff_toNat_lt.1 (mayCross inner).2
    have counted : (message.byteAt 1 + 1).toNat = (message.byteAt 1).toNat + 1 := by
      rw [UInt8.toNat_add]
      exact Nat.mod_eq_of_lt (by change _ + 1 < 256; omega)
    simp only [hopCount, if_pos inner]
    refine ⟨counted, UInt8.le_iff_toNat_le.2 ?_⟩
    rw [counted]
    exact few
  · simp only [hopCount, if_neg inner]
    exact ⟨rfl, by decide⟩

theorem clientOption_of_isIdentified (identified : state.IsIdentified type source message) :
    state.clientOption type source message = .ok (state.clientAddress type source message) := by
  rw [clientOption, clientAddress]
  split
  · rename_i asked
    rcases Option.ne_none_iff_exists'.1 (identified asked.1 asked.2) with ⟨mac, found⟩
    rw [found]
  · rfl

theorem clientOption_of_not_isIdentified
    (unidentified : ¬ state.IsIdentified type source message) :
    state.clientOption type source message = .error .missingClientMac := by
  rw [IsIdentified] at unidentified
  push Not at unidentified
  rcases unidentified with ⟨enabled, outermost, unknown⟩
  rw [clientOption, if_pos ⟨enabled, outermost⟩, unknown]

/-- The envelope of a message that goes out. -/
def sentEnvelope (state : Relay) (type : MessageType) (source : IPv6) (message : Bytes)
    (index : UInt32) (interface : String) : Envelope where
  header := {
    type := MessageType.relayForward.code
    hopCount := if type = .relayForward then message.byteAt 1 + 1 else 0
    link := state.linkAddress type source interface
    peer := source }
  optionArea := encodeOptions
    (wrappingOptions message index (state.clientAddress type source message))

theorem envelope_of_goesOut
    (goes : state.GoesOut6 type source message index interface) :
    state.envelope type source message index interface =
      .ok (state.sentEnvelope type source message index interface) := by
  rw [Relay.envelope, nextHopCount_of_mayCross goes.mayCross,
    clientOption_of_isIdentified goes.identified]
  rfl

theorem wrappingOptions_eq_append (message : Bytes) (index : UInt32) (client : Option Mac) :
    wrappingOptions message index client =
      [(relayMessageCode, message), (interfaceIdCode, Bytes.ofWord32 index)] ++
        client.toList.map fun mac => (linkLayerCode, [0, 1] ++ mac.octets) := by
  cases client <;> rfl

theorem length_value_of_mem_wrappingOptions (short : message.length ≤ 65535) {client : Option Mac}
    {option : UInt16 × Bytes} (member : option ∈ wrappingOptions message index client) :
    option.2.length ≤ 65535 := by
  rw [wrappingOptions_eq_append] at member
  rcases List.mem_append.1 member with fixed | added
  · simp only [List.mem_cons, List.not_mem_nil, or_false] at fixed
    rcases fixed with rfl | rfl
    · exact short
    · simp [Bytes.ofWord32]
  · rcases List.mem_map.1 added with ⟨mac, _, rfl⟩
    simp [mac.length_octets]

/-- The options of the envelope are read back. -/
theorem contents_sentEnvelope (short : message.length ≤ 65535) (state : Relay)
    (type : MessageType) (source : IPv6) (index : UInt32) (interface : String) :
    Framing.dhcp6.contents
        (state.sentEnvelope type source message index interface).optionArea =
      ⟨wrappingOptions message index (state.clientAddress type source message), false⟩ :=
  contents_encodeOptions fun _ member => length_value_of_mem_wrappingOptions short member

/-! ## Servers -/

/-- The packet for a server.  A group needs the interface that it is reached through, a
link-local server a scope, and any other server neither. -/
def packetFor6? (state : Relay) (bytes : Bytes) (index : UInt32) (server : Server6) :
    Option Transmission :=
  let egress := server.egress.bind state.links.index?
  if server.address.isMulticast then
    egress.map fun egress => .udp6 bytes ⟨server.address, serverPort, 0⟩ (some egress)
  else if server.address.isLinkLocal then
    some (.udp6 bytes ⟨server.address, serverPort, egress.getD index⟩ none)
  else
    some (.udp6 bytes ⟨server.address, serverPort, 0⟩ none)

theorem payload_of_packetFor6? {bytes sent : Bytes} {destination : Endpoint6}
    {egress : Option UInt32} {server : Server6}
    (packet : state.packetFor6? bytes index server = some (.udp6 sent destination egress)) :
    sent = bytes := by
  rw [packetFor6?] at packet
  split at packet
  · rcases Option.map_eq_some_iff.1 packet with ⟨_, _, same⟩
    cases same
    rfl
  · split at packet
    · cases packet
      rfl
    · cases packet
      rfl

theorem sendToServer6_eq (state : Relay) (network : Network) (bytes : Bytes) (index : UInt32)
    (interface : String) (server : Server6) :
    state.sendToServer6 network bytes index interface server =
      match state.packetFor6? bytes index server with
      | none => .unreachable (.messageToServer6 interface server) "egress interface not found"
      | some packet => .send network (.messageToServer6 interface server) packet := by
  rw [sendToServer6, packetFor6?]
  dsimp only
  cases server.address.isMulticast with
  | true => cases server.egress.bind state.links.index? <;> rfl
  | false => cases server.address.isLinkLocal <;> rfl

theorem transmission_sendToServer6 (state : Relay) (network : Network) (bytes : Bytes)
    (index : UInt32) (interface : String) (server : Server6) :
    (state.sendToServer6 network bytes index interface server).transmission =
      state.packetFor6? bytes index server := by
  rw [sendToServer6_eq]
  cases state.packetFor6? bytes index server <;> rfl

theorem delivered_sendToServer6 (state : Relay) (network : Network) (bytes : Bytes)
    (index : UInt32) (interface : String) (server : Server6) :
    (state.sendToServer6 network bytes index interface server).delivered =
      (state.packetFor6? bytes index server).filter
        (network.takes (.messageToServer6 interface server)) := by
  rw [sendToServer6_eq]
  cases state.packetFor6? bytes index server with
  | none => rfl
  | some packet =>
      rw [Attempt.delivered_send, Option.filter_some]

theorem isSettled_sendToServer6 (state : Relay) (network : Network) (bytes : Bytes)
    (index : UInt32) (interface : String) (server : Server6) :
    (state.sendToServer6 network bytes index interface server).IsSettled := by
  rw [sendToServer6_eq]
  cases state.packetFor6? bytes index server with
  | none => rfl
  | some packet => exact Attempt.isSettled_send network _ packet

/-- The attempts to send bytes to the servers of an interface. -/
def attempts6 (state : Relay) (network : Network) (bytes : Bytes) (index : UInt32)
    (interface : String) : List Attempt :=
  (state.servers6.serversOf interface).map
    (state.sendToServer6 network bytes index interface)

theorem delivered_attempts6 (state : Relay) (network : Network) (bytes : Bytes)
    (index : UInt32) (interface : String) :
    (state.attempts6 network bytes index interface).filterMap (·.delivered) =
      (state.servers6.serversOf interface).filterMap fun server =>
        (state.packetFor6? bytes index server).filter
          (network.takes (.messageToServer6 interface server)) := by
  rw [attempts6, List.filterMap_map]
  refine List.filterMap_congr fun server _ => ?_
  exact delivered_sendToServer6 state network bytes index interface server

/-! ## Relaying -/

theorem relayMessage6_of_goesOut (goes : state.GoesOut6 type source message index interface)
    (network : Network) :
    state.relayMessage6 network type source message index (some interface) =
      .ok ((state.attempts6 network
        (state.sentEnvelope type source message index interface).bytes index interface).map
        .attempt) := by
  rw [relayMessage6, if_neg (mt List.isEmpty_iff.1 goes.served), envelope_of_goesOut goes, attempts6,
    List.map_map]
  rfl

/-- Any other message stays, for a reason that no network gave. -/
theorem relayMessage6_of_stays (enabled : state.settings.v6RelayEnabled = true)
    (unmapped : source.mappedIPv4? = none)
    (stays : ¬ ∃ interface, state.GoesOut6 type source message index interface)
    (network : Network) :
    ∃ reason,
      state.relayMessage6 network type source message index (state.links.name? index) =
        .error reason ∧
      reason ≠ .sendFailed := by
  cases named : state.links.name? index with
  | none => exact ⟨_, rfl, by simp⟩
  | some interface =>
      rw [relayMessage6]
      by_cases served : state.servers6.serversOf interface = []
      · rw [if_pos (List.isEmpty_iff.2 served)]
        exact ⟨_, rfl, by simp⟩
      · rw [if_neg (mt List.isEmpty_iff.1 served), Relay.envelope]
        by_cases mayCross : MayCross type message
        · rw [nextHopCount_of_mayCross mayCross]
          by_cases identified : state.IsIdentified type source message
          · exact absurd ⟨interface, enabled, unmapped, named, served, mayCross, identified⟩ stays
          · rw [clientOption_of_not_isIdentified identified]
            exact ⟨_, rfl, by simp⟩
        · rcases nextHopCount_of_not_mayCross mayCross with ⟨reason, stuck, other⟩
          rw [stuck]
          exact ⟨reason, rfl, other⟩

/-! ## Handling a message -/

theorem receive6_of_disabled (disabled : state.settings.v6RelayEnabled = false)
    (network : Network) (message : Bytes) (source : IPv6) (index : UInt32) :
    (state.receive6 network message source index).Stays := by
  rw [receive6, disabled]
  exact ⟨rfl, .disabled, rfl, by simp⟩

theorem receive6_of_mapped (mapped : source.mappedIPv4? ≠ none) (network : Network)
    (message : Bytes) (index : UInt32) :
    (state.receive6 network message source index).Stays := by
  cases enabled : state.settings.v6RelayEnabled with
  | false => exact receive6_of_disabled enabled network message source index
  | true =>
      rw [receive6, enabled]
      dsimp only
      rw [if_pos (Option.isSome_iff_ne_none.2 mapped)]
      exact ⟨rfl, .v4MappedSource, rfl, by simp⟩

/-- A message for servers is relayed. -/
theorem receive6_of_forServers (enabled : state.settings.v6RelayEnabled = true)
    (unmapped : source.mappedIPv4? = none) (typed : typeOf message = .ok type)
    (forServers : type.isForServers = true) (network : Network) (index : UInt32) :
    let ingress := counted (state.links.name? index)
    state.receive6 network message source index =
      (state.relayMessage6 network type source message index (state.links.name? index)).finish
        (state.statistics.touch ingress) ingress .v6ClientRelayed .v6ClientDropped ingress := by
  intro ingress
  rw [receive6, enabled, unmapped, typed]
  dsimp only
  rw [if_pos forServers]
  rfl

/-- A message that goes out is sent to each server in one envelope. -/
theorem receive6_of_goesOut (goes : state.GoesOut6 type source message index interface)
    (typed : typeOf message = .ok type) (forServers : type.isForServers = true)
    (network : Network) :
    let handled := state.receive6 network message source index
    let bytes := (state.sentEnvelope type source message index interface).bytes
    handled.attempts = state.attempts6 network bytes index interface ∧
      handled.outcome =
        if handled.sent = [] then .dropped .sendFailed
        else .relayed handled.sent.length
          ((state.servers6.serversOf interface).length - handled.sent.length) := by
  intro handled bytes
  have received : handled = _ :=
    receive6_of_forServers goes.enabled goes.unmapped typed forServers network index
  rw [goes.named, relayMessage6_of_goesOut goes] at received
  have tried : state.attempts6 network bytes index interface ≠ [] :=
    mt List.map_eq_nil_iff.1 goes.served
  have settled : ∀ attempt ∈ state.attempts6 network bytes index interface,
      attempt.IsSettled := by
    intro attempt member
    rcases List.mem_map.1 member with ⟨server, _, rfl⟩
    exact isSettled_sendToServer6 state network bytes index interface server
  have count : (state.attempts6 network bytes index interface).length =
      (state.servers6.serversOf interface).length := List.length_map _
  rw [received, ← count]
  exact finish_attempts tried settled _ _ _ _ _

/-- Any other message for servers stays. -/
theorem receive6_of_stays (typed : typeOf message = .ok type)
    (forServers : type.isForServers = true)
    (stays : ¬ ∃ interface, state.GoesOut6 type source message index interface)
    (network : Network) : (state.receive6 network message source index).Stays := by
  cases enabled : state.settings.v6RelayEnabled with
  | false => exact receive6_of_disabled enabled network message source index
  | true =>
      by_cases unmapped : source.mappedIPv4? = none
      · rcases relayMessage6_of_stays enabled unmapped stays network with
          ⟨reason, relaying, other⟩
        rw [receive6_of_forServers enabled unmapped typed forServers, relaying]
        exact Relaying.stays_finish other ..
      · exact receive6_of_mapped unmapped network message index

/-- A message for servers stays, with nothing sent, unless it goes out.  Then every server of
its interface is tried once, in order and with one envelope.  Read back, the envelope counts
one relay more than the message, names its source, and has the message, the interface and,
where the settings ask for it, the client's link-layer address as its only options. -/
theorem stays_or_fansOut_of_message6 (state : Relay) (network : Network)
    (typed : typeOf message = .ok type) (forServers : type.isForServers = true)
    (short : message.length ≤ 65535) (source : IPv6) (index : UInt32) :
    let handled := state.receive6 network message source index
    (handled.Stays ∧ ¬ ∃ interface, state.GoesOut6 type source message index interface) ∨
      ∃ interface sent envelope,
        state.GoesOut6 type source message index interface ∧
        Envelope.decode sent = .ok envelope ∧
        envelope.header.type = MessageType.relayForward.code ∧
        envelope.header.hopCount.toNat =
          (if type = .relayForward then (message.byteAt 1).toNat + 1 else 0) ∧
        envelope.header.hopCount ≤ hopCountLimit ∧
        envelope.header.peer = source ∧
        (Cursor.start .dhcp6 envelope.optionArea).drain.1.map (·.map Tlv.pair) =
          ([(relayMessageCode, message), (interfaceIdCode, Bytes.ofWord32 index)] ++
            (state.clientAddress type source message).toList.map fun mac =>
              (linkLayerCode, [0, 1] ++ mac.octets)).map .ok ∧
        let servers := state.servers6.serversOf interface
        handled.attempts.map (·.transmission) = servers.map (state.packetFor6? sent index) ∧
          handled.sent =
            (servers.filterMap fun server => (state.packetFor6? sent index server).filter
              (network.takes (.messageToServer6 interface server))) ∧
          ∃ failed, handled.sent.length + failed = servers.length ∧
            handled.outcome =
              if handled.sent = [] then .dropped .sendFailed
              else .relayed handled.sent.length failed := by
  intro handled
  by_cases goes : ∃ interface, state.GoesOut6 type source message index interface
  · right
    rcases goes with ⟨interface, goes⟩
    let envelope := state.sentEnvelope type source message index interface
    have options : (Cursor.start .dhcp6 envelope.optionArea).drain.1.map (·.map Tlv.pair) =
        (wrappingOptions message index (state.clientAddress type source message)).map .ok :=
      Cursor.map_drain_start_iff.2 (contents_sentEnvelope short ..)
    rw [wrappingOptions_eq_append] at options
    rcases hopCount_of_mayCross goes.mayCross with ⟨hopCount, within⟩
    rcases receive6_of_goesOut goes typed forServers network with ⟨attempts, outcome⟩
    have sent : handled.sent = (state.servers6.serversOf interface).filterMap fun server =>
        (state.packetFor6? envelope.bytes index server).filter
          (network.takes (.messageToServer6 interface server)) := by
      rw [Handled.sent, show handled.attempts = _ from attempts]
      exact delivered_attempts6 ..
    have few : handled.sent.length ≤ (state.servers6.serversOf interface).length := by
      rw [sent]
      exact List.length_filterMap_le ..
    refine ⟨interface, envelope.bytes, envelope, goes, Envelope.decode_bytes envelope, rfl,
      hopCount, within, rfl, options, ?_, sent, _, Nat.add_sub_of_le few, outcome⟩
    rw [show handled.attempts = _ from attempts, attempts6, List.map_map]
    exact List.map_congr_left fun server _ =>
      transmission_sendToServer6 state network envelope.bytes index interface server
  · exact .inl ⟨receive6_of_stays typed forServers goes network, goes⟩

/-- An address with these two bytes in front and this one at its end. -/
def sampleAddress (first second last : UInt8) : IPv6 :=
  ⟨[first, second] ++ List.replicate 13 0 ++ [last], rfl⟩

/-- A way to the servers, known by a global address, and a client segment. -/
def dualLinks : Topology :=
  ⟨[⟨2, "eth0", none, false, [], [sampleAddress 32 1 1]⟩,
    ⟨3, "eth1", none, false, [], [sampleAddress 254 128 1]⟩], .zero⟩

/-- A relay that names its clients to five servers behind `eth1`.  The first two of them have one
address, the last one is a group behind an interface that there is not. -/
def mixedRelay : Relay :=
  let settings := { Settings.default with v6RelayEnabled := true, option79Enabled := true }
  let start := Relay.start settings dualLinks
  let servers : List Server6 :=
    [⟨sampleAddress 32 1 5, none⟩, ⟨sampleAddress 32 1 5, some "eth0"⟩,
      ⟨sampleAddress 254 128 5, some "eth0"⟩, ⟨sampleAddress 255 5 5, some "eth0"⟩,
      ⟨sampleAddress 255 2 5, some "eth9"⟩]
  { start with
    servers6 := (start.servers6.addAll ⟨fun _ => none, fun _ => none⟩ "eth1" servers).roster }

/-- A network that loses what is sent to the first of them, though not the same packet when it
is sent to the second one. -/
def lossyNetwork : Network where
  refusesSend _ := none
  refusesNeighbour _ := none
  refusesPurpose
    | .messageToServer6 _ server =>
        if server.egress = none then some "no buffer space available" else none
    | _ => none

theorem stays_or_fansOut_solicit :
    let client := sampleAddress 254 128 9
    let message := solicit .zero 7
    let handled := mixedRelay.receive6 lossyNetwork message client 3
    typeOf message = .ok .solicit ∧ MessageType.solicit.isForServers = true ∧
      message.length ≤ 65535 ∧
      handled.outcome = .relayed 3 2 ∧
      ∃ sent envelope, Envelope.decode sent = .ok envelope ∧
        envelope.header.hopCount.toNat = 0 ∧
        envelope.header.peer = client ∧
        handled.sent = [
          .udp6 sent ⟨sampleAddress 32 1 5, serverPort, 0⟩ none,
          .udp6 sent ⟨sampleAddress 254 128 5, serverPort, 2⟩ none,
          .udp6 sent ⟨sampleAddress 255 5 5, serverPort, 0⟩ (some 2)] := by
  intro client message handled
  have typed : typeOf message = .ok .solicit := by decide +kernel
  have short : message.length ≤ 65535 := by decide +kernel
  have outcome : handled.outcome = .relayed 3 2 := by decide +kernel
  refine ⟨typed, rfl, short, outcome, ?_⟩
  rcases mixedRelay.stays_or_fansOut_of_message6 lossyNetwork typed rfl short client 3 with
    ⟨⟨_, reason, dropped, _⟩, _⟩ |
      ⟨interface, sent, envelope, goes, decoded, _, hopCount, _, peer, _, _, packets, _⟩
  · cases outcome.symm.trans dropped
  · cases goes.named
    exact ⟨sent, envelope, decoded, hopCount, peer, packets⟩

end DhcpRelay.Relay
