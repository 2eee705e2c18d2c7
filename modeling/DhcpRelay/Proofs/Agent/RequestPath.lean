import DhcpRelay.Dhcp4.Compose
import DhcpRelay.Proofs.Agent.Dispatch
import DhcpRelay.Proofs.Agent.FanOut
import DhcpRelay.Proofs.Agent.ReplyValidation
import DhcpRelay.Proofs.Dhcp4.Header

/-!
# The way of requests

A request either stays, and then nothing is sent for it, or it goes out to each DHCP
server of its interface as one and the same message.  `GoesOut` collects what decides
between the two.
-/

namespace DhcpRelay

namespace Dhcp4

/-- Two messages differ in nothing but the hop count and the relay address. -/
structure SameButStamp (before after : Bytes) : Prop where
  length : after.length = before.length
  others : ∀ position, position ≠ 3 → position < 24 ∨ 28 ≤ position →
    after[position]? = before[position]?

end Dhcp4

namespace Relay

open Dhcp4

variable {state : Relay} {network : Network} {message marked : Bytes} {index : UInt32}
  {interface : String} {address : IPv4}

/-! ## Stamping -/

theorem stampRequest_of_lt (state : Relay) (exceeded : hopLimit < hops message) (address : IPv4) :
    state.stampRequest message address = .error .hopLimitExceeded := by
  rw [stampRequest]
  dsimp only
  rw [if_pos exceeded]

/-- A stamped message has its hop count and its relay address set, and nothing else. -/
theorem stampRequest_of_le (state : Relay) (whole : headerSize ≤ message.length)
    (within : hops message ≤ hopLimit) (address : IPv4) :
    ∃ stamped, state.stampRequest message address = .ok stamped ∧
      SameButStamp message stamped ∧
      hops stamped = hops message + (if state.settings.hopCountIncrement then 1 else 0) ∧
      relayAddress stamped =
        if relayAddress message = .unspecified then address else relayAddress message := by
  let counted :=
    if state.settings.hopCountIncrement then withHops message (hops message + 1) else message
  have size : 236 ≤ message.length := whole
  have same : SameButStamp message counted ∧
      hops counted = hops message + (if state.settings.hopCountIncrement then 1 else 0) ∧
      relayAddress counted = relayAddress message := by
    cases increment : state.settings.hopCountIncrement with
    | true =>
        simp only [counted, increment, if_true]
        refine ⟨⟨length_withHops .., fun position other _ => getElem?_withHops other _⟩, ?_,
          relayAddress_withHops ..⟩
        exact hops_withHops (by omega) _
    | false =>
        simp only [counted, increment, Bool.false_eq_true, if_false]
        exact ⟨⟨rfl, fun _ _ _ => rfl⟩, by simp, trivial⟩
  rcases same with ⟨⟨length, others⟩, hops, relayAddress⟩
  have fits : 28 ≤ counted.length := by omega
  have stamped : state.stampRequest message address =
      .ok (if Dhcp4.relayAddress counted = .unspecified then withRelayAddress counted address
        else counted) := by
    rw [stampRequest]
    dsimp only
    rw [if_neg (UInt8.not_lt.2 within)]
  rw [← hops, ← relayAddress]
  refine ⟨_, stamped, ?_⟩
  by_cases free : Dhcp4.relayAddress counted = .unspecified
  · rw [if_pos free, if_pos free]
    refine ⟨⟨(length_withRelayAddress fits address).trans length, ?_⟩,
      hops_withRelayAddress fits address, relayAddress_withRelayAddress fits address⟩
    intro position notHops notAddress
    rw [getElem?_withRelayAddress fits notAddress, others position notHops notAddress]
  · rw [if_neg free, if_neg free]
    exact ⟨⟨length, others⟩, rfl, rfl⟩

/-! ## Marking -/

theorem take_of_markRequest (done : state.markRequest message index address = .ok marked) :
    marked.take optionsStart = message.take optionsStart := by
  rw [markRequest] at done
  split at done
  · dsimp only at done
    split at done
    · cases done
    · cases done
      exact take_markRequest ..
    · cases done
  · cases done
    rfl

theorem markRequest_of_disabled (disabled : state.settings.option82Enabled = false) :
    state.markRequest message index address = .ok message := by
  rw [markRequest, disabled]
  rfl

theorem ne_sendFailed_of_markRequest {reason : DropCause}
    (failed : state.markRequest message index address = .error reason) :
    reason ≠ .sendFailed := by
  rw [markRequest] at failed
  split at failed
  · dsimp only at failed
    split at failed
    · cases failed
      simp
    · cases failed
    · cases failed
      simp
  · cases failed

/-! ## Going out -/

/-- A request goes out from an interface that has DHCP servers, marked in the name of the
first address of the interface. -/
structure GoesOut (state : Relay) (message : Bytes) (index : UInt32) (interface : String)
    (address : IPv4) (marked : Bytes) : Prop where
  enabled : state.settings.relayEnabled = true
  whole : headerSize ≤ message.length
  named : state.links.name? index = some interface
  addressed : state.links.ipv4? interface = some address
  usable : address ≠ .unspecified
  marked : state.markRequest message index address = .ok marked
  within : hops message ≤ hopLimit
  served : ∃ server ∈ state.servers4.serversOf interface, server.port = serverPort

/-- The packets that carry a request to the DHCP servers of an interface. -/
def requestPackets (state : Relay) (interface : String) (sent : Bytes) (override : Option IPv4) :
    List (Purpose × Transmission) :=
  ((state.servers4.serversOf interface).filter (·.port == serverPort)).map fun server =>
    let destination : Endpoint4 := ⟨server.address, server.port⟩
    (.requestToServer interface destination, .udp4 sent destination override none)

theorem dhcpServers_ne_nil_iff :
    state.dhcpServers interface ≠ [] ↔
      ∃ server ∈ state.servers4.serversOf interface, server.port = serverPort := by
  simp [dhcpServers, List.filter_eq_nil_iff]

theorem requestPackets_ne_nil (sent : Bytes) (override : Option IPv4)
    (served : ∃ server ∈ state.servers4.serversOf interface, server.port = serverPort) :
    state.requestPackets interface sent override ≠ [] := by
  simpa [requestPackets, List.filter_eq_nil_iff] using served

/-- Each server gets its packet. -/
theorem map_dhcpServers (network : Network) (interface : String) (sent : Bytes)
    (override : Option IPv4) :
    ((state.dhcpServers interface).map fun server =>
      let destination : Endpoint4 := ⟨server, serverPort⟩
      Effect.attempt (.send network (.requestToServer interface destination)
        (.udp4 sent destination override none))) =
      (sends network (state.requestPackets interface sent override)).map .attempt := by
  rw [dhcpServers, sends, requestPackets, List.map_map, List.map_map, List.map_map]
  refine List.map_congr_left fun server member => ?_
  have port : server.port = serverPort := by simpa using (List.mem_filter.1 member).2
  simp only [Function.comp_apply, port]

theorem requestAddress_eq_some_iff :
    state.requestAddress interface = some address ↔
      state.links.ipv4? interface = some address ∧ address ≠ .unspecified := by
  simp [requestAddress, Option.filter_eq_some_iff]

/-- A request that goes out is sent to each server as one message. -/
theorem relayRequest_of_goesOut
    (goes : state.GoesOut message index interface address marked) (network : Network)
    (source : IPv4) :
    ∃ sent,
      state.relayRequest network source message index (state.links.name? index) =
        .ok ((sends network (state.requestPackets interface sent
          (if source = .unspecified then some address else none))).map .attempt) ∧
      SameButStamp marked sent ∧
      hops sent = hops message + (if state.settings.hopCountIncrement then 1 else 0) ∧
      relayAddress sent =
        if relayAddress message = .unspecified then address else relayAddress message := by
  have front := take_of_markRequest goes.marked
  have whole : headerSize ≤ marked.length :=
    Bytes.length_le_of_take_eq front (by decide) goes.whole
  have sameHops : hops marked = hops message := Bytes.byteAt_of_take_eq front (by decide)
  have sameAddress : relayAddress marked = relayAddress message :=
    IPv4.readAt_of_take_eq front (by decide)
  rcases state.stampRequest_of_le whole (sameHops ▸ goes.within) address with
    ⟨sent, stamped, same, sentHops, sentAddress⟩
  refine ⟨sent, ?_, same, sameHops ▸ sentHops, sameAddress ▸ sentAddress⟩
  have known := requestAddress_eq_some_iff.2 ⟨goes.addressed, goes.usable⟩
  have served : (state.dhcpServers interface).isEmpty = false :=
    List.isEmpty_eq_false_iff.2 (dhcpServers_ne_nil_iff.2 goes.served)
  rw [← map_dhcpServers]
  simp only [relayRequest, goes.named, known, goes.marked, stamped, served, bind, Except.bind]
  rfl

/-- Any other request stays, for a reason that no network gave. -/
theorem relayRequest_of_stays (enabled : state.settings.relayEnabled = true)
    (whole : headerSize ≤ message.length)
    (stays : ¬ ∃ interface address marked,
      state.GoesOut message index interface address marked) (network : Network) (source : IPv4) :
    ∃ reason,
      state.relayRequest network source message index (state.links.name? index) =
        .error reason ∧
      reason ≠ .sendFailed := by
  cases named : state.links.name? index with
  | none => exact ⟨_, rfl, by simp⟩
  | some interface =>
      rw [relayRequest]
      cases known : state.requestAddress interface with
      | none => exact ⟨_, rfl, by simp⟩
      | some address =>
          rcases requestAddress_eq_some_iff.1 known with ⟨addressed, usable⟩
          dsimp only
          cases done : state.markRequest message index address with
          | error reason => exact ⟨reason, rfl, ne_sendFailed_of_markRequest done⟩
          | ok marked =>
              have front := take_of_markRequest done
              have sameHops : hops marked = hops message :=
                Bytes.byteAt_of_take_eq front (by decide)
              by_cases within : hops message ≤ hopLimit
              · rcases state.stampRequest_of_le
                  (Bytes.length_le_of_take_eq front (by decide) whole)
                  (sameHops ▸ within) address with ⟨stamped, stamping, _⟩
                have unserved : (state.dhcpServers interface).isEmpty = true := by
                  rw [List.isEmpty_iff]
                  by_contra served
                  exact stays ⟨interface, address, marked, enabled, whole, named, addressed,
                    usable, done, within, dhcpServers_ne_nil_iff.1 served⟩
                refine ⟨.noHelperConfigured interface, ?_, by simp⟩
                simp only [stamping, unserved, bind, Except.bind]
                rfl
              · refine ⟨.hopLimitExceeded, ?_, by simp⟩
                have exceeded : hopLimit < hops marked := by
                  rw [sameHops]
                  exact UInt8.not_le.1 within
                simp only [state.stampRequest_of_lt exceeded, bind, Except.bind]

/-! ## Handling a request -/

/-- A request stays, with nothing sent, unless it goes out.  Then every DHCP server of its
interface is tried once, in order and with one message; the packets that the network takes
are sent, and the outcome counts them and the others. -/
theorem stays_or_fansOut_of_request (state : Relay) (network : Network) {datagram : Bytes}
    {view : DatagramView} (decoded : Datagram.decode datagram = .ok view)
    (forDhcp : ForDhcp view) (request : operation (view.payload datagram) = requestOperation)
    (index : UInt32) :
    let message := view.payload datagram
    let handled := state.receive4 network datagram index
    (handled.Stays ∧ ¬ ∃ interface address marked,
        state.GoesOut message index interface address marked) ∨
      ∃ interface address marked sent,
        state.GoesOut message index interface address marked ∧
        let override := if view.source = .unspecified then some address else none
        let packets := state.requestPackets interface sent override
        handled.effects = (sends network packets).map .attempt ∧
          handled.sent = network.taken packets ∧
          handled.outcome =
            (if handled.sent = [] then .dropped .sendFailed
              else .relayed handled.sent.length (packets.length - handled.sent.length)) ∧
          hops sent = hops message + (if state.settings.hopCountIncrement then 1 else 0) ∧
          relayAddress sent =
            (if relayAddress message = .unspecified then address else relayAddress message) ∧
          relayAddress sent ≠ .unspecified ∧
          (state.settings.option82Enabled = false → SameButStamp message sent) := by
  intro message handled
  have received : handled = _ := receive4_of_forDhcp decoded forDhcp network index
  cases enabled : state.settings.relayEnabled with
  | false =>
      left
      refine ⟨received ▸ receiveBootp_of_disabled enabled .., ?_⟩
      intro goes
      rcases goes with ⟨interface, address, marked, goes⟩
      cases enabled.symm.trans goes.enabled
  | true =>
      by_cases whole : headerSize ≤ message.length
      · rcases receiveBootp_of_request enabled whole request network view index
          (state.links.name? index) (state.statistics.touch (counted (state.links.name? index)))
          with ⟨counters, relayed, dropped, failing, name, finished⟩
        rw [received, finished]
        by_cases goes : ∃ interface address marked,
            state.GoesOut message index interface address marked
        · right
          rcases goes with ⟨interface, address, marked, goes⟩
          rcases relayRequest_of_goesOut goes network view.source with
            ⟨sent, relaying, same, sentHops, sentAddress⟩
          have served := requestPackets_ne_nil sent
            (if view.source = .unspecified then some address else none) goes.served
          rw [relaying]
          rcases finish_sends served counters name relayed dropped failing
            with ⟨effects, taken, outcome⟩
          have written : relayAddress sent ≠ .unspecified := by
            rw [sentAddress]
            split
            · exact goes.usable
            · assumption
          refine ⟨interface, address, marked, sent, goes, effects, taken, outcome, sentHops,
            sentAddress, written, fun unmarked => ?_⟩
          -- Without agent information the stamp is all that was written.
          have plain := goes.marked.symm.trans (markRequest_of_disabled unmarked)
          exact Except.ok.inj plain ▸ same
        · left
          rcases relayRequest_of_stays enabled whole goes network view.source with
            ⟨reason, relaying, other⟩
          rw [relaying]
          exact ⟨Relaying.stays_finish other .., goes⟩
      · left
        refine ⟨received ▸ receiveBootp_of_short (Nat.not_le.1 whole) .., ?_⟩
        intro goes
        rcases goes with ⟨interface, address, marked, goes⟩
        exact whole goes.whole

/-- A relay with two DHCP servers and a server for another port behind `eth1`. -/
def helperRelay : Relay :=
  let start := Relay.start .default twoLinks
  let servers : List Server4 :=
    [.dhcp Dhcp4.sampleServer, ⟨Dhcp4.sampleServer, 69⟩, .dhcp ⟨10, 0, 0, 6⟩]
  { start with
    servers4 := (start.servers4.addAll ⟨fun _ => none, fun _ => none⟩ "eth1" servers).roster }

/-- A network that does not reach the first of them. -/
def brokenNetwork : Network where
  refusesSend
    | .udp4 _ destination _ _ =>
        if destination.address = Dhcp4.sampleServer then some "host unreachable" else none
    | _ => none
  refusesNeighbour := fun _ => none

/-- The datagram of a client without address that looks for servers. -/
def discover : Bytes :=
  Datagram.bytes ⟨.unspecified, .broadcast, 68, 67, 64⟩ (clientRequest 1 .zero 7)

theorem stays_or_fansOut_discover :
    let handled := helperRelay.receive4 brokenNetwork discover 3
    ∃ view, Datagram.decode discover = .ok view ∧ ForDhcp view ∧
      operation (view.payload discover) = requestOperation ∧
      handled.outcome = .relayed 1 1 ∧
      ∃ interface address sent,
        handled.effects = (sends brokenNetwork
          (helperRelay.requestPackets interface sent (some address))).map .attempt ∧
        hops sent = 1 ∧ relayAddress sent = address ∧
        SameButStamp (view.payload discover) sent := by
  intro handled
  have decoded : Datagram.decode discover =
      .ok ⟨.unspecified, .broadcast, 64, 68, 67, 28, 300⟩ := by decide +kernel
  have request : operation (discover.slice 28 328) = requestOperation := by decide +kernel
  have outcome : handled.outcome = .relayed 1 1 := by decide +kernel
  refine ⟨_, decoded, .inl rfl, request, outcome, ?_⟩
  rcases helperRelay.stays_or_fansOut_of_request brokenNetwork decoded (.inl rfl) request 3 with
    ⟨⟨_, reason, dropped, _⟩, _⟩ | ⟨interface, address, marked, sent, _, effects, _, _, counted,
      written, _, same⟩
  · cases outcome.symm.trans dropped
  · have free : relayAddress (discover.slice 28 328) = .unspecified := by decide +kernel
    have fresh : hops (discover.slice 28 328) = 0 := by decide +kernel
    refine ⟨interface, address, sent, effects, ?_, ?_, same rfl⟩
    · rw [counted]
      change hops (discover.slice 28 328) + 1 = 1
      rw [fresh]
      rfl
    · rw [written]
      exact if_pos free

end Relay

end DhcpRelay
