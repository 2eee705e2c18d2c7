import DhcpRelay.Proofs.Agent.RequestPath
import DhcpRelay.Proofs.Agent.Unwinding

/-!
# Relays in a circle

A message that relays send on to each other goes through a bounded number of them.  Each
pass counts one relay more and needs the count to be within the limit, whatever the settings
are and whatever happens to the options.
-/

namespace DhcpRelay.Relay

/-! ## Counting passes -/

/-- Where each pass takes messages of a kind to messages of that kind, with a count that is
one higher and was within the limit before, there are no more passes than counts left. -/
theorem bounded_of_ascends {Pass : Bytes → Bytes → Prop} {Kind : Bytes → Prop}
    {count : Bytes → Nat} {limit : Nat} {message : Bytes} {sent : List Bytes}
    (chain : List.IsChain Pass (message :: sent)) (first : Kind message)
    (ascends : ∀ before after, Pass before after → Kind before →
      Kind after ∧ count before ≤ limit ∧ count after = count before + 1) :
    sent.length ≤ limit + 1 - count message ∧
      ∀ index after, sent[index]? = some after →
        Kind after ∧ count after = count message + index + 1 := by
  induction sent generalizing message with
  | nil => exact ⟨Nat.zero_le _, nofun⟩
  | cons next rest ih =>
      rcases List.isChain_cons_cons.1 chain with ⟨here, behind⟩
      rcases ascends _ _ here first with ⟨kind, within, rises⟩
      rcases ih behind kind with ⟨few, counted⟩
      constructor
      · rw [List.length_cons]
        omega
      · intro index after present
        cases index with
        | zero =>
            cases present
            exact ⟨kind, rises⟩
        | succ index =>
            rcases counted index after present with ⟨later, count⟩
            exact ⟨later, by omega⟩

/-! ## DHCPv4 requests -/

/-- A relay that counts hops receives a message in a datagram for DHCP and sends another one
on. -/
def Passes4 (before after : Bytes) : Prop :=
  ∃ (state : Relay) (network : Network) (datagram : Bytes) (view : DatagramView)
    (index : UInt32),
    state.settings.hopCountIncrement = true ∧
    Datagram.decode datagram = .ok view ∧ ForDhcp view ∧ view.payload datagram = before ∧
    ∃ destination source egress,
      .udp4 after destination source egress ∈ (state.receive4 network datagram index).sent

section

open Dhcp4

variable {state : Relay} {network : Network} {before after : Bytes} {view : DatagramView}
  {index : UInt32} {interface : Option String} {statistics : Statistics}

/-- A request of which something is sent on goes out. -/
theorem exists_goesOut_of_sent (request : operation before = requestOperation)
    (something : (state.receiveBootp network view before index (state.links.name? index)
      statistics).sent ≠ []) :
    ∃ interface address marked, state.GoesOut before index interface address marked := by
  by_contra stays
  refine something (Handled.Stays.sent_eq_nil ?_)
  cases enabled : state.settings.relayEnabled with
  | false => exact receiveBootp_of_disabled enabled ..
  | true =>
      by_cases whole : headerSize ≤ before.length
      · rcases receiveBootp_of_request enabled whole request network view index
          (state.links.name? index) statistics with ⟨_, _, _, _, _, finished⟩
        rcases relayRequest_of_stays enabled whole stays network view.source with
          ⟨reason, relaying, other⟩
        rw [finished, relaying]
        exact Relaying.stays_finish other ..
      · exact receiveBootp_of_short (Nat.not_le.1 whole) ..

/-- What a relay sends on for a request is the request with one hop more. -/
theorem Passes4.ascends (passes : Passes4 before after)
    (request : operation before = requestOperation) :
    operation after = requestOperation ∧ (hops before).toNat ≤ 16 ∧
      (hops after).toNat = (hops before).toNat + 1 := by
  rcases passes with ⟨state, network, datagram, view, index, counting, decoded, forDhcp, rfl,
    destination, source, egress, sent⟩
  rw [receive4_of_forDhcp decoded forDhcp] at sent
  rcases exists_goesOut_of_sent request (List.ne_nil_of_mem sent) with
    ⟨interface, address, marked, goes⟩
  rcases receiveBootp_of_request goes.enabled goes.whole request network view index
    (state.links.name? index) (state.statistics.touch (counted (state.links.name? index))) with
    ⟨statistics, relayed, dropped, failing, name, finished⟩
  rcases relayRequest_of_goesOut goes network view.source with
    ⟨copy, relaying, same, copyHops, _⟩
  have taken : after = copy := by
    rw [finished, relaying, (finish_sends (requestPackets_ne_nil copy _ goes.served) statistics
      name relayed dropped failing).2.1] at sent
    rcases exists_purpose_of_mem_taken sent with ⟨purpose, member⟩
    rcases List.mem_map.1 member with ⟨server, _, same⟩
    cases same
    rfl
  have front := take_of_markRequest goes.marked
  have unstamped : operation copy = operation marked :=
    Bytes.byteAt_of_getElem?_eq (same.others 0 (by decide) (.inl (by decide)))
  have unmarked : operation marked = operation (view.payload datagram) :=
    Bytes.byteAt_of_take_eq front (by decide)
  have within : (hops (view.payload datagram)).toNat ≤ 16 :=
    UInt8.le_iff_toNat_le.1 goes.within
  refine ⟨taken ▸ unstamped.trans (unmarked.trans request), within, ?_⟩
  rw [taken, copyHops, counting, if_pos rfl, UInt8.toNat_add]
  exact Nat.mod_eq_of_lt (by change _ + 1 < 256; omega)

end

/-! ## DHCPv6 messages -/

section

open Dhcp6

variable {before after : Bytes}

/-- A relay receives a DHCPv6 message and sends another one on. -/
def Passes6 (before after : Bytes) : Prop :=
  ∃ hop : Hop, hop.Sends before after

/-- The message is for servers, and whole if it is an envelope. -/
def IsForServers (message : Bytes) : Prop :=
  ∃ type, typeOf message = .ok type ∧ type.isForServers = true ∧
    (type = .relayForward → envelopeHeaderSize ≤ message.length)

/-- The hop count of the next envelope. -/
def hopsSoFar (message : Bytes) : Nat :=
  if typeOf message = .ok .relayForward then (message.byteAt 1).toNat + 1 else 0

/-- The envelope that a relay sends counts the hops so far. -/
theorem hopCount_of_goesOut {state : Relay} {type : MessageType} {source : IPv6} {index : UInt32}
    {interface : String} (typed : typeOf before = .ok type)
    (goes : state.GoesOut6 type source before index interface) :
    ((state.sentEnvelope type source before index interface).bytes.byteAt 1).toNat =
        hopsSoFar before ∧
      hopsSoFar before ≤ 32 := by
  rcases hopCount_of_mayCross goes.mayCross with ⟨count, within⟩
  have same : hopsSoFar before =
      if type = .relayForward then (before.byteAt 1).toNat + 1 else 0 := by
    rw [hopsSoFar, typed]
    simp only [Except.ok.injEq]
  rw [same, ← count]
  exact ⟨rfl, UInt8.le_iff_toNat_le.1 within⟩

/-- What a relay sends on is an envelope that counts one hop more. -/
theorem Passes6.ascends (passes : Passes6 before after) (forServers : IsForServers before) :
    IsForServers after ∧ hopsSoFar before ≤ 32 ∧ hopsSoFar after = hopsSoFar before + 1 := by
  rcases passes with ⟨hop, sends⟩
  rcases forServers with ⟨type, typed, forServers, _⟩
  rcases sends.exists_goesOut typed forServers with ⟨interface, goes, sealed⟩
  rcases hopCount_of_goesOut typed goes with ⟨count, within⟩
  rw [← sealed] at count
  have outer : typeOf after = .ok .relayForward :=
    sealed ▸ Envelope.typeOf_of_decode (Envelope.decode_bytes _) rfl
  have whole : envelopeHeaderSize ≤ after.length := by
    rw [sealed, Envelope.length_bytes]
    exact Nat.le_add_right _ _
  refine ⟨⟨.relayForward, outer, rfl, fun _ => whole⟩, within, ?_⟩
  rw [hopsSoFar, if_pos outer, count]

/-- A message with hops behind it is an envelope that counts them. -/
theorem IsForServers.exists_envelope (forServers : IsForServers after) {count : Nat}
    (hops : hopsSoFar after = count + 1) :
    ∃ envelope, Envelope.decode after = .ok envelope ∧
      envelope.header.type = MessageType.relayForward.code ∧
      envelope.header.hopCount.toNat = count := by
  rcases forServers with ⟨type, typed, _, whole⟩
  rw [hopsSoFar] at hops
  split at hops
  · rename_i outer
    have size := whole (Except.ok.inj (typed.symm.trans outer))
    rw [Envelope.decode, if_neg (Nat.not_lt.2 size)]
    exact ⟨_, rfl, byteAt_of_typeOf outer, Nat.succ.inj hops⟩
  · cases hops

end

/-! ## Bounds -/

/-- A request that is first received with some hops is sent on in so many passes that no hop
count goes beyond 17, and a message of a client in 33 passes at most.  With each pass the
hop count is one higher. -/
theorem passes_bounded :
    (∀ message sent, Dhcp4.operation message = Dhcp4.requestOperation →
        List.IsChain Passes4 (message :: sent) →
        sent.length ≤ 17 - (Dhcp4.hops message).toNat ∧
          ∀ index after, sent[index]? = some after →
            Dhcp4.operation after = Dhcp4.requestOperation ∧
              (Dhcp4.hops after).toNat = (Dhcp4.hops message).toNat + index + 1) ∧
      ∀ message sent type, Dhcp6.typeOf message = .ok type → type.isForServers = true →
        type ≠ .relayForward → List.IsChain Passes6 (message :: sent) →
        sent.length ≤ 33 ∧
          ∀ index after, sent[index]? = some after →
            ∃ envelope, Dhcp6.Envelope.decode after = .ok envelope ∧
              envelope.header.type = Dhcp6.MessageType.relayForward.code ∧
              envelope.header.hopCount.toNat = index := by
  constructor
  · intro message sent request chain
    exact bounded_of_ascends chain request fun _ _ => Passes4.ascends
  · intro message sent type typed forServers innermost chain
    have none : hopsSoFar message = 0 := by
      rw [hopsSoFar, typed, if_neg]
      simpa using innermost
    have first : IsForServers message :=
      ⟨type, typed, forServers, fun outer => absurd outer innermost⟩
    rcases bounded_of_ascends chain first fun _ _ => Passes6.ascends with ⟨few, counted⟩
    rw [none] at few counted
    refine ⟨few, fun index after present => ?_⟩
    rcases counted index after present with ⟨kind, hops⟩
    exact kind.exists_envelope (hops.trans (by rw [Nat.zero_add]))

/-- A request that another relay has sent on, with so many hops. -/
def countedRequest (hops : UInt8) : Bytes :=
  Dhcp4.withHops
    (Dhcp4.withRelayAddress (Dhcp4.clientRequest 1 .zero 7) ⟨192, 168, 1, 1⟩) hops

/-- A client's message and what two relays after each other make of it, and a request that
has come close to the limit. -/
theorem passes_bounded_nearLimit :
    List.IsChain Passes4 [countedRequest 15, countedRequest 16, countedRequest 17] ∧
      (Dhcp4.hops (countedRequest 15)).toNat = 15 ∧
      (Dhcp4.hops (countedRequest 17)).toNat = 17 ∧
      ∃ inner outer, List.IsChain Passes6 [Dhcp6.solicit .zero 7, inner, outer] ∧
        ∃ envelope, Dhcp6.Envelope.decode outer = .ok envelope ∧
          envelope.header.hopCount.toNat = 1 := by
  let datagram := fun hops : UInt8 =>
    Datagram.bytes ⟨.unspecified, .broadcast, 68, 67, 64⟩ (countedRequest hops)
  let view : DatagramView := ⟨.unspecified, .broadcast, 64, 68, 67, 28, 300⟩
  let reached : Endpoint4 := ⟨⟨10, 0, 0, 6⟩, Dhcp4.serverPort⟩
  have pass : Passes4 (countedRequest 15) (countedRequest 16) :=
    ⟨helperRelay, brokenNetwork, datagram 15, view, 3, rfl, by decide +kernel, .inl rfl,
      by decide +kernel, reached, some ⟨192, 168, 1, 1⟩, none, by decide +kernel⟩
  have last : Passes4 (countedRequest 16) (countedRequest 17) :=
    ⟨helperRelay, brokenNetwork, datagram 16, view, 3, rfl, by decide +kernel, .inl rfl,
      by decide +kernel, reached, some ⟨192, 168, 1, 1⟩, none, by decide +kernel⟩
  have chain : List.IsChain Passes4 [countedRequest 15, countedRequest 16, countedRequest 17] :=
    .cons_cons pass (.cons_cons last (.singleton _))
  let client := sampleAddress 254 128 9
  let first := sampleAddress 32 1 1
  let inner := (singleRelay.sentEnvelope .solicit client (Dhcp6.solicit .zero 7) 3 "eth1").bytes
  let outer := (singleRelay.sentEnvelope .relayForward first inner 3 "eth1").bytes
  have sends : (hopFrom client).Sends (Dhcp6.solicit .zero 7) inner :=
    ⟨⟨sampleAddress 32 1 5, Dhcp6.serverPort, 0⟩, none, by decide +kernel⟩
  have further : (hopFrom first).Sends inner outer :=
    ⟨⟨sampleAddress 32 1 5, Dhcp6.serverPort, 0⟩, none, by decide +kernel⟩
  have nested : List.IsChain Passes6 [Dhcp6.solicit .zero 7, inner, outer] :=
    .cons_cons ⟨_, sends⟩ (.cons_cons ⟨_, further⟩ (.singleton _))
  have typed : Dhcp6.typeOf (Dhcp6.solicit .zero 7) = .ok .solicit := by decide +kernel
  have request : Dhcp4.operation (countedRequest 15) = Dhcp4.requestOperation := by
    decide +kernel
  have before : (Dhcp4.hops (countedRequest 15)).toNat = 15 := by decide +kernel
  rcases passes_bounded with ⟨requests, messages⟩
  rcases (requests _ _ request chain).2 1 _ rfl with ⟨_, hops⟩
  rcases (messages _ _ _ typed rfl (by decide) nested).2 1 _ rfl with ⟨envelope, decoded, _, count⟩
  refine ⟨chain, before, ?_, inner, outer, nested, envelope, decoded, count⟩
  rw [hops, before]

end DhcpRelay.Relay
