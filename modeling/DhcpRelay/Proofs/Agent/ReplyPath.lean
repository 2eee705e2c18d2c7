import DhcpRelay.Proofs.Agent.Dispatch
import DhcpRelay.Proofs.Agent.FanOut
import DhcpRelay.Proofs.Agent.ReplyValidation
import DhcpRelay.Proofs.Dhcp4.Header

/-!
# The way of replies

A reply either stays, and then nothing is done for it, or it is delivered once to its
client.  Which address that is depends on the reply as it is sent, without the agent
information that it came with.
-/

namespace DhcpRelay

namespace Dhcp4

/-- Replies are for everyone if the client asked for that or is refused. -/
def IsForEveryone (message : Bytes) : Prop :=
  wantsBroadcast message = true ∨ typeOf message = some refusal

/-- The address that a reply is for.  A client that is acknowledged and assigned nothing
is reached at the address it has. -/
inductive IsFor (message : Bytes) : IPv4 → Prop where
  | everyone : IsForEveryone message → IsFor message .broadcast
  | assigned : ¬ IsForEveryone message → yourAddress message ≠ .unspecified →
      IsFor message (yourAddress message)
  | kept : ¬ IsForEveryone message → yourAddress message = .unspecified →
      typeOf message = some acknowledgement → clientAddress message ≠ .unspecified →
      IsFor message (clientAddress message)

theorem IsFor.ne_unspecified {message : Bytes} {client : IPv4} (isFor : IsFor message client) :
    client ≠ .unspecified := by
  cases isFor with
  | everyone => decide
  | assigned _ given => exact given
  | kept _ _ _ known => exact known

end Dhcp4

namespace Relay

open Dhcp4

variable {state : Relay} {view : DatagramView} {message sent : Bytes} {owner : UInt32}
  {egress : String} {client : IPv4}

theorem replyDestination_eq_some_iff :
    replyDestination message = some client ↔ IsFor message client := by
  have everyone : (wantsBroadcast message || typeOf message == some refusal) = true ↔
      IsForEveryone message := by
    simp [IsForEveryone]
  rw [replyDestination]
  by_cases loud : IsForEveryone message
  · rw [if_pos (everyone.2 loud), Option.some.injEq]
    constructor
    · intro same
      subst same
      exact .everyone loud
    · intro isFor
      cases isFor with
      | everyone => rfl
      | assigned quiet => exact absurd loud quiet
      | kept quiet => exact absurd loud quiet
  · rw [if_neg (mt everyone.1 loud)]
    by_cases given : yourAddress message = .unspecified
    · rw [if_neg (not_not.2 given)]
      constructor
      · intro found
        split at found
        · rename_i known
          cases found
          exact .kept loud given known.1 known.2
        · cases found
      · intro isFor
        cases isFor with
        | everyone now => exact absurd now loud
        | assigned _ some => exact absurd given some
        | kept _ _ acknowledged known => exact if_pos ⟨acknowledged, known⟩
    · rw [if_pos given, Option.some.injEq]
      constructor
      · intro same
        subst same
        exact .assigned loud given
      · intro isFor
        cases isFor with
        | everyone now => exact absurd now loud
        | assigned => rfl
        | kept _ none => exact absurd none given

/-! ## Going to the client -/

/-- A reply that came to this machine is delivered through the interface that owns its
relay address, as handling its agent information leaves it. -/
structure Delivers (state : Relay) (view : DatagramView) (message : Bytes) (owner : UInt32)
    (egress : String) (sent : Bytes) (client : IPv4) : Prop where
  whole : headerSize ≤ message.length
  unicast : view.destination ≠ .broadcast
  owned : state.links.ownerOf (relayAddress message) = some owner
  named : state.links.name? owner = some egress
  passed :
    if state.settings.option82Enabled then
      Dhcp4.unmarkReply message state.settings.option82Validation state.settings.identity
        state.links = ⟨.forward, sent⟩
    else
      sent = message
  isFor : IsFor sent client

/-- The neighbour that a reply is sent to. -/
def neighbourOf (sent : Bytes) (egress : String) (client : IPv4) : NeighbourEntry where
  interface := egress
  address := client
  hardwareAddress := (sent.drop 28).take (min (hardwareLength sent).toNat 16)
  hardwareType := hardwareType sent

theorem unmarkReply_eq_ok_iff :
    state.unmarkReply message = .ok sent ↔
      if state.settings.option82Enabled then
        Dhcp4.unmarkReply message state.settings.option82Validation state.settings.identity
          state.links = ⟨.forward, sent⟩
      else
        sent = message := by
  rw [unmarkReply]
  split
  · dsimp only
    rcases edited : Dhcp4.unmarkReply message state.settings.option82Validation
      state.settings.identity state.links with ⟨result, left⟩
    cases result <;> simp
  · simp [eq_comm]

theorem ne_sendFailed_of_unmarkReply {reason : DropCause}
    (failed : state.unmarkReply message = .error reason) : reason ≠ .sendFailed := by
  rw [unmarkReply] at failed
  split at failed
  · dsimp only at failed
    split at failed
    · cases failed
    · cases failed
      simp
    · cases failed
      simp
  · cases failed

theorem take_of_unmarkReply (done : state.unmarkReply message = .ok sent) :
    sent.take optionsStart = message.take optionsStart := by
  rw [unmarkReply_eq_ok_iff] at done
  split at done
  · have front := take_unmarkReply message state.settings.option82Validation
      state.settings.identity state.links
    rwa [done] at front
  · rw [done]

theorem replyInterface_eq_ok_iff :
    state.replyInterface message = .ok (owner, egress) ↔
      state.links.ownerOf (relayAddress message) = some owner ∧
        state.links.name? owner = some egress := by
  unfold replyInterface
  dsimp only
  cases owned : state.links.ownerOf (relayAddress message) with
  | none => simp
  | some found =>
      dsimp only
      cases named : state.links.name? found with
      | none =>
          simp only [reduceCtorEq, false_iff, not_and, Option.some.injEq]
          intro same
          subst same
          simp [named]
      | some name =>
          simp only [Except.ok.injEq, Prod.mk.injEq, Option.some.injEq]
          constructor
          · intro same
            rcases same with ⟨rfl, rfl⟩
            exact ⟨rfl, named⟩
          · intro same
            rcases same with ⟨rfl, again⟩
            exact ⟨rfl, Option.some.inj (named.symm.trans again)⟩

/-- A reply is delivered to the address that it is for, and to no other. -/
theorem deliver_of_isFor (done : state.unmarkReply message = .ok sent) (isFor : IsFor sent client)
    (network : Network) (owner : UInt32) (egress : String) :
    let entry := neighbourOf sent egress client
    let destination : Endpoint4 := ⟨client, clientPort⟩
    state.deliver network message owner egress =
      .ok ((if client = .broadcast then []
          else [.neighbour entry (network.refusesNeighbour entry)]) ++
        (sends network [(.replyToClient egress destination,
          .udp4 sent destination (some (relayAddress message)) (some owner))]).map .attempt) := by
  intro entry destination
  have hardwareAddress : Dhcp4.hardwareAddress sent =
      (sent.drop 28).take (min (hardwareLength sent).toNat 16) := by
    rw [Dhcp4.hardwareAddress, Bytes.slice, Nat.add_sub_cancel_left]
  simp only [deliver, done, bind, Except.bind, replyDestination_eq_some_iff.2 isFor,
    hardwareAddress]
  rfl

theorem deliver_of_not_isFor
    (stays : ¬ ∃ sent client, state.unmarkReply message = .ok sent ∧ IsFor sent client)
    (network : Network) (owner : UInt32) (egress : String) :
    ∃ reason, state.deliver network message owner egress = .error reason ∧
      reason ≠ .sendFailed := by
  cases done : state.unmarkReply message with
  | error reason =>
      refine ⟨reason, ?_, ne_sendFailed_of_unmarkReply done⟩
      simp only [deliver, done, bind, Except.bind]
  | ok sent =>
      cases found : replyDestination sent with
      | some client => exact absurd ⟨sent, client, done, replyDestination_eq_some_iff.1 found⟩ stays
      | none =>
          refine ⟨.noClientAddress, ?_, by simp⟩
          simp only [deliver, done, bind, Except.bind, found]

/-! ## Handling a reply -/

/-- A reply stays, with nothing done for it, unless it is delivered.  Then one packet is
sent, from the relay address and through its owner, to the client; and unless that is
everyone, the client is made a neighbour first. -/
theorem stays_or_delivered_of_reply (state : Relay) (network : Network) {datagram : Bytes}
    {view : DatagramView} (decoded : Datagram.decode datagram = .ok view)
    (forDhcp : ForDhcp view) (reply : operation (view.payload datagram) = replyOperation)
    (enabled : state.settings.relayEnabled = true) (index : UInt32) :
    let message := view.payload datagram
    let handled := state.receive4 network datagram index
    (handled.Stays ∧ ¬ ∃ owner egress sent client,
        state.Delivers view message owner egress sent client) ∨
      ∃ owner egress sent client,
        state.Delivers view message owner egress sent client ∧
        let entry := neighbourOf sent egress client
        let destination : Endpoint4 := ⟨client, clientPort⟩
        let purpose := Purpose.replyToClient egress destination
        let packet := Transmission.udp4 sent destination (some (relayAddress message)) (some owner)
        client ≠ .unspecified ∧
          relayAddress sent = relayAddress message ∧
          handled.effects =
            (if client = .broadcast then []
              else [.neighbour entry (network.refusesNeighbour entry)]) ++
            [.attempt (.send network purpose packet)] ∧
          handled.outcome =
            if network.takes purpose packet then .relayed 1 0 else .dropped .sendFailed := by
  intro message handled
  have received : handled = _ := receive4_of_forDhcp decoded forDhcp network index
  by_cases whole : headerSize ≤ message.length
  · rcases receiveBootp_of_reply enabled whole reply network view index
        (state.links.name? index) (state.statistics.touch (counted (state.links.name? index))) with
      ⟨broadcast, stays⟩ | ⟨unicast, ⟨reason, unowned, stays⟩ | ⟨owner, egress, owned, counters,
        relayed, dropped, failing, name, finished⟩⟩
    · left
      refine ⟨received ▸ stays, ?_⟩
      intro delivers
      rcases delivers with ⟨_, _, _, _, delivers⟩
      exact delivers.unicast broadcast
    · left
      refine ⟨received ▸ stays, ?_⟩
      intro delivers
      rcases delivers with ⟨_, _, _, _, delivers⟩
      cases unowned.symm.trans (replyInterface_eq_ok_iff.2 ⟨delivers.owned, delivers.named⟩)
    · rw [received, finished]
      rcases replyInterface_eq_ok_iff.1 owned with ⟨owns, named⟩
      by_cases goes : ∃ sent client, state.unmarkReply message = .ok sent ∧ IsFor sent client
      · right
        rcases goes with ⟨sent, client, done, isFor⟩
        rw [deliver_of_isFor done isFor network owner egress]
        refine ⟨owner, egress, sent, client, ⟨whole, unicast, owns, named,
          unmarkReply_eq_ok_iff.1 done, isFor⟩, isFor.ne_unspecified, ?_, rfl, ?_⟩
        · exact IPv4.readAt_of_take_eq (take_of_unmarkReply done) (by decide)
        · refine finish_delivery ?_ network _ _ counters name relayed dropped failing
          split <;> rfl
      · left
        rcases deliver_of_not_isFor goes network owner egress with ⟨reason, failed, other⟩
        rw [failed]
        refine ⟨Relaying.stays_finish other .., ?_⟩
        intro delivers
        rcases delivers with ⟨_, _, sent, client, delivers⟩
        exact goes ⟨sent, client, unmarkReply_eq_ok_iff.2 delivers.passed, delivers.isFor⟩
  · left
    refine ⟨received ▸ receiveBootp_of_short (Nat.not_le.1 whole) .., ?_⟩
    intro delivers
    rcases delivers with ⟨_, _, _, _, delivers⟩
    exact whole delivers.whole

/-- An acknowledgement, named as such in the `file` field, for a client that keeps the
address it has. -/
def keptAddressReply : Bytes :=
  let message := compose ⟨replyOperation, 7, 0, .unspecified, ⟨192, 168, 1, 1⟩, .zero⟩ [(52, [1])]
  Datagram.bytes ⟨sampleServer, ⟨192, 168, 1, 1⟩, 67, 67, 64⟩
    ((message.overwrite 12 [192, 168, 1, 50]).overwrite 108 [53, 1, 5, 255])

theorem stays_or_delivered_keptAddressReply :
    let state := start .default twoLinks
    let handled := state.receive4 quietNetwork keptAddressReply 2
    let client : IPv4 := ⟨192, 168, 1, 50⟩
    ∃ view, Datagram.decode keptAddressReply = .ok view ∧ ForDhcp view ∧
      operation (view.payload keptAddressReply) = replyOperation ∧
      state.settings.relayEnabled = true ∧
      handled.outcome = .relayed 1 0 ∧
      ∃ owner egress sent,
        state.Delivers view (view.payload keptAddressReply) owner egress sent client ∧
        handled.effects =
          [.neighbour (neighbourOf sent egress client) none,
            .attempt (.send quietNetwork (.replyToClient egress ⟨client, clientPort⟩)
              (.udp4 sent ⟨client, clientPort⟩ (some ⟨192, 168, 1, 1⟩) (some owner)))] := by
  intro state handled client
  have decoded : Datagram.decode keptAddressReply =
      .ok ⟨sampleServer, ⟨192, 168, 1, 1⟩, 64, 67, 67, 28, 300⟩ := by decide +kernel
  have reply : operation (keptAddressReply.slice 28 328) = replyOperation := by decide +kernel
  have outcome : handled.outcome = .relayed 1 0 := by decide +kernel
  refine ⟨_, decoded, .inl rfl, reply, rfl, outcome, ?_⟩
  rcases state.stays_or_delivered_of_reply quietNetwork decoded (.inl rfl) reply rfl 2 with
    ⟨⟨_, reason, dropped, _⟩, _⟩ | ⟨owner, egress, sent, found, delivers, _, _, effects, _⟩
  · cases outcome.symm.trans dropped
  · have plain : sent = keptAddressReply.slice 28 328 := delivers.passed
    have kept : replyDestination (keptAddressReply.slice 28 328) = some client := by
      decide +kernel
    have same := replyDestination_eq_some_iff.2 delivers.isFor
    rw [plain, kept, Option.some.injEq] at same
    subst same
    have relay : relayAddress (keptAddressReply.slice 28 328) = ⟨192, 168, 1, 1⟩ := by
      decide +kernel
    refine ⟨owner, egress, sent, delivers, ?_⟩
    rw [effects]
    change _ ++ [Effect.attempt (.send _ _ (.udp4 _ _
      (some (relayAddress (keptAddressReply.slice 28 328))) _))] = _
    rw [relay, if_neg (by decide)]
    rfl

end Relay

end DhcpRelay
