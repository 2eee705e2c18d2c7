import DhcpRelay.Proofs.Agent.Attempts

/-!
# Which way a message takes

Datagrams for the two DHCP ports hold BOOTP messages, and the operation of a message
says whether it is a request or a reply.  What is not taken any further is dropped
without effect.
-/

namespace DhcpRelay

/-- A packet that had no effect and was dropped, though not because sending failed. -/
def Handled.Stays (handled : Handled) : Prop :=
  handled.effects = [] ∧ ∃ reason, handled.outcome = .dropped reason ∧ reason ≠ .sendFailed

theorem Handled.Stays.sent_eq_nil {handled : Handled} (stays : handled.Stays) :
    handled.sent = [] := by
  rw [Handled.sent, Handled.attempts, stays.1]
  rfl

theorem Relaying.stays_finish {reason : DropCause} (other : reason ≠ .sendFailed)
    (statistics : Statistics) (interface : String) (relayed dropped : Counter)
    (failing : String) :
    (Relaying.finish (.error reason) statistics interface relayed dropped failing).Stays :=
  ⟨rfl, reason, rfl, other⟩

namespace Relay

variable {state : Relay} {datagram message : Bytes} {view : DatagramView}

/-- The datagram is for one of the two DHCP ports. -/
def ForDhcp (view : DatagramView) : Prop :=
  view.destinationPort = Dhcp4.serverPort ∨ view.destinationPort = Dhcp4.clientPort

theorem receive4_of_forDhcp (decoded : Datagram.decode datagram = .ok view)
    (forDhcp : ForDhcp view) (network : Network) (index : UInt32) :
    state.receive4 network datagram index =
      state.receiveBootp network view (view.payload datagram) index (state.links.name? index)
        (state.statistics.touch (counted (state.links.name? index))) := by
  rw [receive4, decoded]
  exact if_pos forDhcp

theorem receiveBootp_of_disabled (disabled : state.settings.relayEnabled = false)
    (network : Network) (view : DatagramView) (message : Bytes) (index : UInt32)
    (interface : Option String) (statistics : Statistics) :
    (state.receiveBootp network view message index interface statistics).Stays := by
  rw [receiveBootp, disabled]
  exact ⟨rfl, .disabled, rfl, by simp⟩

theorem receiveBootp_of_short (short : message.length < Dhcp4.headerSize) (network : Network)
    (view : DatagramView) (index : UInt32) (interface : Option String)
    (statistics : Statistics) :
    (state.receiveBootp network view message index interface statistics).Stays := by
  rw [receiveBootp, Dhcp4.checkHeader, if_pos short]
  dsimp only
  split
  · exact ⟨rfl, .disabled, rfl, by simp⟩
  · exact ⟨rfl, .malformed _, rfl, by simp⟩

/-- A whole request is relayed. -/
theorem receiveBootp_of_request (enabled : state.settings.relayEnabled = true)
    (whole : Dhcp4.headerSize ≤ message.length)
    (request : Dhcp4.operation message = Dhcp4.requestOperation) (network : Network)
    (view : DatagramView) (index : UInt32) (interface : Option String)
    (statistics : Statistics) :
    ∃ counted relayed dropped failing name,
      state.receiveBootp network view message index interface statistics =
        (state.relayRequest network view.source message index interface).finish counted name
          relayed dropped failing := by
  rw [receiveBootp, enabled, Dhcp4.checkHeader, if_neg (Nat.not_lt.2 whole)]
  dsimp only
  rw [if_pos request]
  exact ⟨_, _, _, _, _, rfl⟩

/-- A whole reply goes to the interface that owns its relay address, unless it was
broadcast. -/
theorem receiveBootp_of_reply (enabled : state.settings.relayEnabled = true)
    (whole : Dhcp4.headerSize ≤ message.length)
    (reply : Dhcp4.operation message = Dhcp4.replyOperation) (network : Network)
    (view : DatagramView) (index : UInt32) (interface : Option String)
    (statistics : Statistics) :
    (view.destination = .broadcast ∧
        (state.receiveBootp network view message index interface statistics).Stays) ∨
      view.destination ≠ .broadcast ∧
        ((∃ reason, state.replyInterface message = .error reason ∧
            (state.receiveBootp network view message index interface statistics).Stays) ∨
          ∃ owner egress, state.replyInterface message = .ok (owner, egress) ∧
            ∃ counted relayed dropped failing name,
              state.receiveBootp network view message index interface statistics =
                (state.deliver network message owner egress).finish counted name relayed
                  dropped failing) := by
  have notRequest : Dhcp4.operation message ≠ Dhcp4.requestOperation := by
    rw [reply]
    decide
  rw [receiveBootp, enabled, Dhcp4.checkHeader, if_neg (Nat.not_lt.2 whole)]
  dsimp only
  rw [if_neg notRequest, if_pos reply]
  by_cases broadcast : view.destination = .broadcast
  · left
    rw [if_pos broadcast]
    exact ⟨broadcast, rfl, .broadcastReply, rfl, by simp⟩
  · right
    rw [if_neg broadcast]
    refine ⟨broadcast, ?_⟩
    cases found : state.replyInterface message with
    | error reason =>
        refine .inl ⟨reason, rfl, Relaying.stays_finish ?_ ..⟩
        unfold replyInterface at found
        dsimp only at found
        split at found
        · cases found
          simp
        · split at found
          · cases found
            simp
          · cases found
    | ok owner => exact .inr ⟨owner.1, owner.2, rfl, _, _, _, _, _, rfl⟩

end Relay

end DhcpRelay
