import DhcpRelay.Proofs.Agent.DeliveryPath6

/-!
# Nested relaying

A message may cross several relays on its way to a server, each of which puts one more
envelope around it.  The server answers with replies nested in the same way.  Each relay
takes one of them off and sends the rest where its own message came from, until the first
relay hands the answer to the client.
-/

namespace DhcpRelay.Relay

open Dhcp6

/-! ## There -/

/-- A relay on the way, as it was when the message came in from `source` on the interface
with the index `ingress`. -/
structure Hop where
  state : Relay
  network : Network
  source : IPv6
  ingress : UInt32

/-- The hop receives the inner message and sends the outer one to somebody. -/
def Hop.Sends (hop : Hop) (inner outer : Bytes) : Prop :=
  ∃ destination egress, .udp6 outer destination egress ∈
    (hop.state.receive6 hop.network inner hop.source hop.ingress).sent

/-- The message reaches the server as `outer`, along a path whose last hop comes first. -/
inductive Forwards (message : Bytes) : List Hop → Bytes → Prop where
  | nil : Forwards message [] message
  | cons {hop : Hop} {path : List Hop} {inner outer : Bytes} :
      Forwards message path inner → hop.Sends inner outer →
      Forwards message (hop :: path) outer

/-- What a hop sends is the message in an envelope. -/
theorem Hop.Sends.exists_goesOut {hop : Hop} {inner outer : Bytes} {type : MessageType}
    (sends : hop.Sends inner outer) (typed : typeOf inner = .ok type)
    (forServers : type.isForServers = true) :
    ∃ interface,
      hop.state.GoesOut6 type hop.source inner hop.ingress interface ∧
      outer = (hop.state.sentEnvelope type hop.source inner hop.ingress interface).bytes := by
  rcases sends with ⟨destination, egress, sent⟩
  by_cases goes : ∃ interface,
      hop.state.GoesOut6 type hop.source inner hop.ingress interface
  · rcases goes with ⟨interface, goes⟩
    refine ⟨interface, goes, ?_⟩
    rw [Handled.sent, (receive6_of_goesOut goes typed forServers hop.network).1,
      delivered_attempts6] at sent
    rcases List.mem_filterMap.1 sent with ⟨server, _, packet⟩
    exact payload_of_packetFor6? (Option.filter_eq_some_iff.1 packet).1
  · have stays := receive6_of_stays typed forServers goes hop.network
    rw [stays.sent_eq_nil] at sent
    cases sent

theorem valuesOf_wrappingOptions (message : Bytes) (index : UInt32) (client : Option Mac) :
    valuesOf relayMessageCode (wrappingOptions message index client) = [message] ∧
      valuesOf interfaceIdCode (wrappingOptions message index client) =
        [Bytes.ofWord32 index] := by
  cases client with
  | none => exact ⟨rfl, rfl⟩
  | some mac => exact ⟨rfl, rfl⟩

/-- The server finds in an envelope what the hop knew. -/
theorem read?_sentEnvelope {message : Bytes} (short : message.length ≤ 65535) (state : Relay)
    (type : MessageType) (source : IPv6) (index : UInt32) (interface : String) :
    Layer.read? (state.sentEnvelope type source message index interface).bytes =
      some ⟨MessageType.relayForward.code, source, [Bytes.ofWord32 index], message⟩ := by
  rcases valuesOf_wrappingOptions message index (state.clientAddress type source message) with
    ⟨messages, interfaces⟩
  exact Layer.read?_eq_some_iff.2 ⟨_, _, Envelope.decode_bytes _,
    contents_sentEnvelope short .., rfl, rfl, interfaces, messages⟩

theorem length_le_length_sentEnvelope (state : Relay) (type : MessageType) (source : IPv6)
    (message : Bytes) (index : UInt32) (interface : String) :
    message.length ≤ (state.sentEnvelope type source message index interface).bytes.length := by
  rw [Envelope.length_bytes, sentEnvelope, wrappingOptions_eq_append]
  simp only [encodeOptions, List.cons_append, List.flatMap_cons, Tlv.encode6,
    List.length_append]
  omega

/-- What reaches the server is for servers. -/
theorem Forwards.exists_typeOf {message outer : Bytes} {path : List Hop} {type : MessageType}
    (forwards : Forwards message path outer) (typed : typeOf message = .ok type)
    (forServers : type.isForServers = true) :
    ∃ outermost, Dhcp6.typeOf outer = .ok outermost ∧ outermost.isForServers = true := by
  induction forwards with
  | nil => exact ⟨type, typed, forServers⟩
  | cons _ sends ih =>
      rcases ih with ⟨kind, read, forwarded⟩
      rcases sends.exists_goesOut read forwarded with ⟨interface, _, rfl⟩
      exact ⟨.relayForward, Envelope.typeOf_of_decode (Envelope.decode_bytes _) rfl, rfl⟩

/-! ## And back -/

/-- The reply answers each envelope for the peer and the interface that the hop had recorded. -/
inductive Repeats (answer : Bytes) : List Hop → Bytes → Prop where
  | nil : Repeats answer [] answer
  | cons {hop : Hop} {path : List Hop} {reply : Bytes} {layer : Layer} :
      Layer.read? reply = some layer →
      layer.Answers hop.source [Bytes.ofWord32 hop.ingress] →
      Repeats answer path layer.inner →
      Repeats answer (hop :: path) reply

/-- The reply answers each of so many envelopes for the peer and the interface that are read
in it. -/
inductive Mirrors (answer : Bytes) : Nat → Bytes → Bytes → Prop where
  | zero (forward : Bytes) : Mirrors answer 0 forward answer
  | succ {count : Nat} {forward reply : Bytes} {received layer : Layer} :
      Layer.read? forward = some received →
      received.type = MessageType.relayForward.code →
      Layer.read? reply = some layer →
      layer.Answers received.peer received.interfaces →
      Mirrors answer count received.inner layer.inner →
      Mirrors answer (count + 1) forward reply

/-- Where the hop had its message from.  Only a link-local address needs the interface as its
scope. -/
def Hop.peer (hop : Hop) (port : UInt16) : Endpoint6 :=
  ⟨hop.source, port, if hop.source.isLinkLocal then hop.ingress else 0⟩

/-- The packet to there. -/
def Hop.packet (hop : Hop) (port : UInt16) (inner : Bytes) : Transmission :=
  .udp6 inner (hop.peer port) none

/-- The hop sends on what is inside the reply, and nothing else.  It does not matter where
the reply comes from and what else has changed at the hop in the meantime. -/
def Hop.Delivers (hop : Hop) (port : UInt16) (inner reply : Bytes) : Prop :=
  ∀ (later : Relay) (network : Network) (server : IPv6) (index : UInt32),
    later.settings.v6RelayEnabled = true → server.mappedIPv4? = none →
      network.takes (.replyToPeer6 (hop.peer port)) (hop.packet port inner) = true →
      (later.receive6 network reply server index).sent = [hop.packet port inner]

/-- Each hop delivers what is inside the reply: relays get it on their own port, the client
on its port. -/
inductive Unwinds (answer : Bytes) : List Hop → Bytes → Prop where
  | nil : Unwinds answer [] answer
  | cons {hop : Hop} {path : List Hop} {reply : Bytes} {layer : Layer} :
      Layer.read? reply = some layer →
      hop.Delivers (if path = [] then clientPort else serverPort) layer.inner reply →
      Unwinds answer path layer.inner →
      Unwinds answer (hop :: path) reply

/-- A reply that can be delivered is all that is sent. -/
theorem sent_receive6_of_delivery {state : Relay} {network : Network} {message : Bytes}
    {server : IPv6} {delivery : Delivery} (enabled : state.settings.v6RelayEnabled = true)
    (unmapped : server.mappedIPv4? = none) (typed : typeOf message = .ok .relayReply)
    (decoded : Delivery.decode message = .ok delivery) (index : UInt32)
    (taken : network.takes (.replyToPeer6 (peerEndpoint delivery)) (deliveryPacket delivery) =
      true) :
    (state.receive6 network message server index).sent = [deliveryPacket delivery] := by
  rw [Handled.sent, Handled.attempts,
    (receive6_of_delivery enabled unmapped typed decoded network index).1]
  change [Attempt.send network _ _].filterMap (·.delivered) = _
  rw [List.filterMap_cons, Attempt.delivered_send, if_pos taken]
  rfl

theorem Hop.delivers_of_answers {hop : Hop} {reply : Bytes} {layer : Layer}
    (read : Layer.read? reply = some layer)
    (answers : layer.Answers hop.source [Bytes.ofWord32 hop.ingress])
    (filled : layer.inner ≠ []) (numbered : hop.ingress ≠ 0) :
    hop.Delivers
      (if layer.inner.head? = some MessageType.relayReply.code then serverPort else clientPort)
      layer.inner reply := by
  intro later network server index enabled unmapped taken
  have typed := Layer.typeOf_of_read? read answers.isReply
  have decoded := Delivery.decode_of_answers read answers filled numbered
  let delivery : Delivery := ⟨layer.inner, hop.ingress, hop.source⟩
  have port : delivery.port =
      if layer.inner.head? = some MessageType.relayReply.code then serverPort
      else clientPort := by
    simp only [delivery, Delivery.port, Delivery.toRelay, beq_iff_eq]
  rw [← port] at taken ⊢
  exact sent_receive6_of_delivery enabled unmapped typed decoded index taken

/-- The reply to a relay is one of its own kind. -/
theorem Repeats.head? {answer reply : Bytes} {path : List Hop}
    (repeats : Repeats answer path reply) (further : path ≠ []) :
    reply.head? = some MessageType.relayReply.code := by
  cases repeats with
  | nil => exact absurd rfl further
  | cons read answers _ => rw [Layer.head?_of_read? read, answers.isReply]

theorem Repeats.unwinds {answer reply : Bytes} {path : List Hop}
    (repeats : Repeats answer path reply) (numbered : ∀ hop ∈ path, hop.ingress ≠ 0)
    (filled : answer ≠ []) (final : answer.head? ≠ some MessageType.relayReply.code) :
    Unwinds answer path reply := by
  induction repeats with
  | nil => exact .nil
  | @cons hop path reply layer read answers rest ih =>
      rw [List.forall_mem_cons] at numbered
      refine .cons read ?_ (ih numbered.2)
      by_cases first : path = []
      · subst first
        cases rest
        have delivers := Hop.delivers_of_answers read answers filled numbered.1
        rwa [if_neg final] at delivers
      · have head := rest.head? first
        have more : layer.inner ≠ [] := by
          intro empty
          rw [empty] at head
          cases head
        have delivers := Hop.delivers_of_answers read answers more numbered.1
        rw [if_pos head] at delivers
        rwa [if_neg first]

/-- What the server reads in the envelopes is what the hops had recorded. -/
theorem mirrors_iff_repeats {message forward : Bytes} {path : List Hop} {type : MessageType}
    (forwards : Forwards message path forward) (typed : typeOf message = .ok type)
    (forServers : type.isForServers = true) (short : forward.length ≤ 65535) (answer : Bytes)
    (reply : Bytes) :
    Mirrors answer path.length forward reply ↔ Repeats answer path reply := by
  induction forwards generalizing reply with
  | nil =>
      constructor
      · intro mirrors
        cases mirrors
        exact .nil
      · intro repeats
        cases repeats
        exact .zero _
  | @cons hop path inner outer forwards sends ih =>
      rcases forwards.exists_typeOf typed forServers with ⟨kind, read, forwarded⟩
      rcases sends.exists_goesOut read forwarded with ⟨interface, _, rfl⟩
      have within : inner.length ≤ 65535 :=
        Nat.le_trans (length_le_length_sentEnvelope ..) short
      have known := read?_sentEnvelope within hop.state kind hop.source hop.ingress interface
      constructor
      · intro mirrors
        cases mirrors with
        | succ received _ layer answers rest =>
            rw [known, Option.some.injEq] at received
            subst received
            exact .cons layer answers ((ih within _).1 rest)
      · intro repeats
        cases repeats with
        | cons layer answers rest =>
            exact .succ known rfl layer answers ((ih within _).2 rest)

/-- Nested relaying is unwound.  Let a message for servers reach the server through any
relays.  If the reply repeats for each of them what it had recorded about its message, then
each relay sends on exactly what is inside, the first one the answer itself to the client.
And to repeat that is to mirror the envelopes as the server reads them, which takes no more
than that they fit into a datagram. -/
theorem unwinds_of_forwards {message forward answer : Bytes} {path : List Hop}
    {type : MessageType} (forwards : Forwards message path forward)
    (typed : typeOf message = .ok type) (forServers : type.isForServers = true)
    (numbered : ∀ hop ∈ path, hop.ingress ≠ 0) (filled : answer ≠ [])
    (final : answer.head? ≠ some MessageType.relayReply.code) :
    (∀ reply, Repeats answer path reply → Unwinds answer path reply) ∧
      (forward.length ≤ 65535 → ∀ reply,
        Mirrors answer path.length forward reply ↔ Repeats answer path reply) := by
  constructor
  · intro reply repeats
    exact repeats.unwinds numbered filled final
  · intro short reply
    exact mirrors_iff_repeats forwards typed forServers short answer reply

/-- A relay on the network of two links that sends what comes from `eth1` to one server. -/
def singleRelay : Relay :=
  let start := Relay.start { Settings.default with v6RelayEnabled := true } dualLinks
  let servers := start.servers6.add ⟨fun _ => none, fun _ => none⟩ "eth1"
    ⟨sampleAddress 32 1 5, none⟩
  { start with servers6 := servers.roster }

/-- Such a relay got a message from here. -/
def hopFrom (source : IPv6) : Hop :=
  ⟨singleRelay, quietNetwork, source, 3⟩

theorem unwinds_solicit :
    let client := sampleAddress 254 128 9
    let first := sampleAddress 32 1 1
    let answer := clientMessage .advertise 7 []
    let path := [hopFrom first, hopFrom client]
    let reply := replyFor first (some 3) (replyFor client (some 3) answer)
    ∃ forward, Forwards (solicit .zero 7) path forward ∧
      Mirrors answer path.length forward reply ∧
      Unwinds answer path reply := by
  intro client first answer path reply
  let inner := (singleRelay.sentEnvelope .solicit client (solicit .zero 7) 3 "eth1").bytes
  let outer := (singleRelay.sentEnvelope .relayForward first inner 3 "eth1").bytes
  have sends : (hopFrom client).Sends (solicit .zero 7) inner :=
    ⟨⟨sampleAddress 32 1 5, serverPort, 0⟩, none, by decide +kernel⟩
  have further : (hopFrom first).Sends inner outer :=
    ⟨⟨sampleAddress 32 1 5, serverPort, 0⟩, none, by decide +kernel⟩
  have forwards : Forwards (solicit .zero 7) path outer := .cons (.cons .nil sends) further
  have layer : Layer.read? (replyFor client (some 3) answer) =
      some ⟨MessageType.relayReply.code, client, [Bytes.ofWord32 3], answer⟩ := by
    decide +kernel
  have outermost : Layer.read? reply = some ⟨MessageType.relayReply.code, first,
      [Bytes.ofWord32 3], replyFor client (some 3) answer⟩ := by
    decide +kernel
  have repeats : Repeats answer path reply :=
    .cons outermost ⟨rfl, rfl, rfl, by decide +kernel⟩
      (.cons layer ⟨rfl, rfl, rfl, by decide +kernel⟩ .nil)
  have numbered : ∀ hop ∈ path, hop.ingress ≠ 0 := by
    intro hop member
    simp only [path, List.mem_cons, List.not_mem_nil, or_false] at member
    rcases member with rfl | rfl <;> exact by decide
  have typed : typeOf (solicit .zero 7) = .ok .solicit := by decide +kernel
  have filled : answer ≠ [] := by decide
  have final : answer.head? ≠ some MessageType.relayReply.code := by decide
  rcases unwinds_of_forwards forwards typed rfl numbered filled final with ⟨unwinds, mirrors⟩
  exact ⟨outer, forwards, (mirrors (by decide +kernel) reply).2 repeats, unwinds reply repeats⟩

end DhcpRelay.Relay
