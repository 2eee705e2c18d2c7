import DhcpRelay.Proofs.Agent.MessagePath6
import DhcpRelay.Proofs.Dhcp6.Delivery

/-!
# The way of the servers' messages

A message of a server stays unless it is a relay-reply that asks for something.  Then one
packet is sent, to the peer and with nothing changed.  Servers and clients are told apart by
the port, link-local peers by their interface.
-/

namespace DhcpRelay.Relay

open Dhcp6

variable {state : Relay} {type : MessageType} {source : IPv6}
  {message : Bytes} {delivery : Delivery}

theorem typeOf_of_head? (headed : message.head? = some type.code)
    (enough : minimumSize ≤ message.length) : typeOf message = .ok type := by
  have first : message.byteAt 0 = type.code := by
    apply Bytes.byteAt_of_getElem?_eq_some
    rw [← List.head?_eq_getElem?, headed]
  rw [typeOf, if_neg (Nat.not_lt.2 enough), first, MessageType.ofCode?_code]

/-- A message that is too short for a header stays. -/
theorem receive6_of_short (enabled : state.settings.v6RelayEnabled = true)
    (unmapped : source.mappedIPv4? = none) (short : message.length < minimumSize)
    (network : Network) (index : UInt32) :
    (state.receive6 network message source index).Stays := by
  rw [receive6, enabled, unmapped, typeOf, if_pos short]
  dsimp only
  rw [if_pos short]
  exact ⟨rfl, _, rfl, by simp⟩

/-- A message of a server is for the relay itself. -/
theorem receive6_of_fromServer (enabled : state.settings.v6RelayEnabled = true)
    (unmapped : source.mappedIPv4? = none) (typed : typeOf message = .ok type)
    (fromServer : type.isForServers = false) (network : Network) (index : UInt32) :
    let ingress := counted (state.links.name? index)
    state.receive6 network message source index =
      state.receiveFromServer6 network type message ingress (state.statistics.touch ingress) := by
  intro ingress
  have other : ¬ type.isForServers = true := by
    rw [fromServer]
    decide
  rw [receive6, enabled, unmapped, typed]
  dsimp only
  rw [if_neg other]
  rfl

/-! ## Relay-replies -/

/-- Where a delivery goes. -/
def peerEndpoint (delivery : Delivery) : Endpoint6 :=
  ⟨delivery.peer, delivery.port, peerScope delivery⟩

theorem peerEndpoint_eq (delivery : Delivery) :
    peerEndpoint delivery =
      ⟨delivery.peer,
        if delivery.payload.head? = some MessageType.relayReply.code then 547 else 546,
        if delivery.peer.isLinkLocal then delivery.interface else 0⟩ := by
  rw [peerEndpoint, peerScope, Delivery.port, Delivery.toRelay]
  simp only [beq_iff_eq]
  rfl

/-- The packet that a delivery is sent as. -/
def deliveryPacket (delivery : Delivery) : Transmission :=
  .udp6 delivery.payload (peerEndpoint delivery) none

/-- What a relay-reply asks for is tried once. -/
theorem receive6_of_delivery (enabled : state.settings.v6RelayEnabled = true)
    (unmapped : source.mappedIPv4? = none) (typed : typeOf message = .ok .relayReply)
    (decoded : Delivery.decode message = .ok delivery) (network : Network) (index : UInt32) :
    let handled := state.receive6 network message source index
    let purpose := Purpose.replyToPeer6 (peerEndpoint delivery)
    let packet := deliveryPacket delivery
    handled.effects = [.attempt (.send network purpose packet)] ∧
      handled.outcome =
        if network.takes purpose packet then .relayed 1 0 else .dropped .sendFailed := by
  have silent : ([] : List Effect).filterMap (·.attempt?) = [] := rfl
  rw [receive6_of_fromServer enabled unmapped typed rfl, receiveFromServer6, if_neg (by decide),
    decoded]
  constructor
  · rfl
  · exact finish_delivery silent network _ _ _ _ _ _ _

/-- Any other message of a server stays. -/
theorem receiveFromServer6_stays
    (refused : type = .relayReply → ¬ ∃ delivery, Delivery.decode message = .ok delivery)
    (network : Network) (ingress : String) (statistics : Statistics) :
    (state.receiveFromServer6 network type message ingress statistics).Stays := by
  rw [receiveFromServer6]
  by_cases isReply : type = .relayReply
  · rw [if_neg (not_not.2 isReply)]
    cases decoded : Delivery.decode message with
    | error fault => exact Relaying.stays_finish (by simp) ..
    | ok delivery => exact absurd ⟨delivery, decoded⟩ (refused isReply)
  · rw [if_pos isReply]
    exact Relaying.stays_finish (by simp) ..

/-- A message of a server stays, unless it is a relay-reply that asks for something to be
delivered.  Then one packet is tried, which holds what is asked for as it is, and goes to the
peer that is named: on the port of servers if it is a relay-reply in turn, else on that of
clients, and through the interface that is named if and only if the peer is link-local. -/
theorem stays_or_delivered_of_serverMessage (enabled : state.settings.v6RelayEnabled = true)
    (unmapped : source.mappedIPv4? = none) (headed : message.head? = some type.code)
    (fromServer : type.isForServers = false) (network : Network) (index : UInt32) :
    let handled := state.receive6 network message source index
    (handled.Stays ∧ (type = .relayReply → ¬ ∃ options peer payload,
        AsksFor message options peer payload)) ∨
      (type = .relayReply ∧ ∃ options peer payload, AsksFor message options peer payload ∧
        let port := if payload.head? = some MessageType.relayReply.code then 547 else 546
        let scope := if peer.isLinkLocal then lastInterface options else 0
        let purpose := Purpose.replyToPeer6 ⟨peer, port, scope⟩
        let packet := Transmission.udp6 payload ⟨peer, port, scope⟩ none
        handled.effects = [.attempt (.send network purpose packet)] ∧
          handled.outcome =
            (if network.takes purpose packet then .relayed 1 0 else .dropped .sendFailed) ∧
          (scope = 0 ↔ peer.isLinkLocal = false)) := by
  intro handled
  by_cases enough : minimumSize ≤ message.length
  · have typed := typeOf_of_head? headed enough
    by_cases asks : type = .relayReply ∧ ∃ delivery, Delivery.decode message = .ok delivery
    · right
      rcases asks with ⟨rfl, delivery, decoded⟩
      rcases Delivery.decode_eq_ok_iff.1 decoded with ⟨options, asks, interface⟩
      rcases receive6_of_delivery enabled unmapped typed decoded network index with
        ⟨effects, outcome⟩
      rw [deliveryPacket, peerEndpoint_eq, ← interface] at effects outcome
      refine ⟨rfl, options, delivery.peer, delivery.payload, asks, effects, outcome, ?_⟩
      cases linkLocal : delivery.peer.isLinkLocal with
      | true => simp [asks.reachable linkLocal]
      | false => simp
    · left
      rw [not_and] at asks
      constructor
      · have received : handled = _ :=
          receive6_of_fromServer enabled unmapped typed fromServer network index
        rw [received]
        exact receiveFromServer6_stays asks ..
      · intro isReply
        exact mt Delivery.exists_decode_eq_ok_iff.2 (asks isReply)
  · left
    have short := Nat.not_le.1 enough
    refine ⟨receive6_of_short enabled unmapped short network index, ?_⟩
    intro _ asks
    rcases asks with ⟨_, _, _, asks⟩
    exact enough (Nat.le_trans (by decide) asks.whole)

/-- A relay-reply that is read to its end: a link-local peer, a message for a relay behind
other ones, and an interface that a longer name does not undo. -/
def layeredReply : Bytes :=
  Envelope.bytes
    ⟨⟨MessageType.relayReply.code, 0, .unspecified, sampleAddress 254 128 9⟩,
      encodeOptions [(relayMessageCode, [7, 1]), (interfaceIdCode, [1, 2]),
        (relayMessageCode, [13, 5]), (relayMessageCode, []), (interfaceIdCode, [3]),
        (interfaceIdCode, [0, 0, 0, 0, 8])]⟩

theorem stays_or_delivered_layeredReply :
    let settings := { Settings.default with v6RelayEnabled := true }
    let state := Relay.start settings dualLinks
    let source := sampleAddress 32 1 5
    let peer := sampleAddress 254 128 9
    let handled := state.receive6 quietNetwork layeredReply source 2
    state.settings.v6RelayEnabled = true ∧ source.mappedIPv4? = none ∧
      layeredReply.head? = some MessageType.relayReply.code ∧
      MessageType.relayReply.isForServers = false ∧
      handled.effects = [.attempt (.send quietNetwork (.replyToPeer6 ⟨peer, 547, 3⟩)
        (.udp6 [13, 5] ⟨peer, 547, 3⟩ none))] := by
  intro settings state source peer handled
  have enabled : state.settings.v6RelayEnabled = true := rfl
  have unmapped : source.mappedIPv4? = none := by decide +kernel
  have headed : layeredReply.head? = some MessageType.relayReply.code := rfl
  have decoded : Delivery.decode layeredReply = .ok ⟨[13, 5], 3, peer⟩ := by decide +kernel
  refine ⟨enabled, unmapped, headed, rfl, ?_⟩
  rcases stays_or_delivered_of_serverMessage enabled unmapped headed rfl quietNetwork 2 with
    ⟨_, never⟩ | ⟨_, options, found, payload, asks, effects, _⟩
  · exact absurd (Delivery.exists_decode_eq_ok_iff.1 ⟨_, decoded⟩) (never rfl)
  · let delivery : Delivery := ⟨payload, lastInterface options, found⟩
    have again : Delivery.decode layeredReply = .ok delivery :=
      Delivery.decode_eq_ok_iff.2 ⟨options, asks, rfl⟩
    have same := Except.ok.inj (decoded.symm.trans again)
    rw [Delivery.mk.injEq] at same
    rcases same with ⟨rfl, named, rfl⟩
    have linkLocal : peer.isLinkLocal = true := by decide +kernel
    have forRelay : List.head? [13, 5] = some MessageType.relayReply.code := rfl
    rw [← named, if_pos linkLocal, if_pos forRelay] at effects
    exact effects

end DhcpRelay.Relay
