import DhcpRelay.Agent.Broadcast
import DhcpRelay.Proofs.Except

/-!
# Who sends what

Each path of the IPv4 handler sends for a purpose of its own.  So the purpose of
an attempt tells which path it came from.
-/

namespace DhcpRelay

@[simp] theorem Handled.attempts_dropped (reason : DropCause) (statistics : Statistics) :
    (Handled.dropped reason statistics).attempts = [] := rfl

@[simp] theorem Relaying.attempts_error (reason : DropCause) :
    Relaying.attempts (.error reason) = [] := rfl

@[simp] theorem Relaying.attempts_finish (relaying : Relaying) (statistics : Statistics)
    (interface : String) (relayed dropped : Counter) (failing : String) :
    (relaying.finish statistics interface relayed dropped failing).attempts =
      relaying.attempts := rfl

/-- The attempts of a path that does nothing but sending. -/
theorem Relaying.mem_attempts_ok {effects : List Effect} {attempt : Attempt} :
    attempt ∈ Relaying.attempts (.ok effects) ↔ .attempt attempt ∈ effects := by
  simp only [Relaying.attempts, Relaying.effects, List.mem_filterMap]
  constructor
  · intro listed
    rcases listed with ⟨effect, member, same⟩
    cases effect with
    | neighbour entry failure => simp [Effect.attempt?] at same
    | attempt tried =>
        simp only [Effect.attempt?, Option.some.injEq] at same
        exact same ▸ member
  · intro member
    exact ⟨_, member, rfl⟩

/-- A path that attempts to send does not fail. -/
theorem Relaying.eq_ok_of_mem_attempts {relaying : Relaying} {attempt : Attempt}
    (member : attempt ∈ relaying.attempts) :
    ∃ effects, relaying = .ok effects ∧ .attempt attempt ∈ effects := by
  cases relaying with
  | error reason => simp at member
  | ok effects => exact ⟨effects, rfl, Relaying.mem_attempts_ok.1 member⟩

namespace Relay

/-- A network that takes every packet. -/
def quietNetwork : Network where
  refusesSend _ := none
  refusesNeighbour _ := none

variable {state : Relay} {network : Network} {attempt : Attempt}

theorem purpose_of_mem_relayRequest {source : IPv4} {message : Bytes} {index : UInt32}
    {interface : Option String}
    (member : attempt ∈ (state.relayRequest network source message index interface).attempts) :
    ∃ name server, attempt.purpose = .requestToServer name server := by
  rcases Relaying.eq_ok_of_mem_attempts member with ⟨effects, sent, tried⟩
  cases interface with
  | none => simp [relayRequest] at sent
  | some name =>
      simp only [relayRequest] at sent
      split at sent
      · simp at sent
      · rcases bind_eq_ok_iff.1 sent with ⟨marked, _, sent⟩
        rcases bind_eq_ok_iff.1 sent with ⟨stamped, _, sent⟩
        by_cases none : (state.dhcpServers name).isEmpty = true
        · simp [none] at sent
        · rw [if_neg none] at sent
          simp only [pure, Except.pure, Except.ok.injEq] at sent
          subst sent
          rcases List.mem_map.1 tried with ⟨server, _, same⟩
          simp only [Effect.attempt.injEq] at same
          exact ⟨_, _, (congrArg Attempt.purpose same).symm⟩

theorem purpose_of_mem_forward {view : DatagramView} {payload : Bytes} {index : UInt32}
    {interface : Option String}
    (member : attempt ∈ (state.forward network view payload index interface).attempts) :
    ∃ name server, attempt.purpose = .broadcastToServer name server := by
  rcases Relaying.eq_ok_of_mem_attempts member with ⟨effects, sent, tried⟩
  unfold forward at sent
  split at sent
  · simp at sent
  split at sent
  · simp at sent
  split at sent
  · simp at sent
  split at sent
  · simp at sent
  · dsimp only at sent
    split at sent
    · simp at sent
    · rcases bind_eq_ok_iff.1 sent with ⟨source, _, sent⟩
      rcases exists_of_mem_mapM sent tried with ⟨server, _, same⟩
      rcases bind_eq_ok_iff.1 same with ⟨datagram, _, same⟩
      simp only [pure, Except.pure, Except.ok.injEq, Effect.attempt.injEq] at same
      exact ⟨_, _, (congrArg Attempt.purpose same).symm⟩

/-- What is sent to a client: the reply without agent information. -/
theorem of_mem_deliver {message : Bytes} {index : UInt32} {interface : String}
    (member : attempt ∈ (state.deliver network message index interface).attempts) :
    ∃ unmarked client, state.unmarkReply message = .ok unmarked ∧
      replyDestination unmarked = some client ∧
      attempt = .send network (.replyToClient interface ⟨client, Dhcp4.clientPort⟩)
        (.udp4 unmarked ⟨client, Dhcp4.clientPort⟩ (some (Dhcp4.relayAddress message))
          (some index)) := by
  rcases Relaying.eq_ok_of_mem_attempts member with ⟨effects, sent, tried⟩
  rcases bind_eq_ok_iff.1 sent with ⟨unmarked, stripped, sent⟩
  split at sent
  · simp at sent
  · rename_i client destination
    refine ⟨unmarked, client, stripped, destination, ?_⟩
    simp only [pure, Except.pure, Except.ok.injEq] at sent
    subst sent
    rcases List.mem_append.1 tried with neighbour | send
    · split at neighbour <;> simp at neighbour
    · simpa using send

/-- Only replies are sent to clients, and only by `deliver`. -/
theorem of_mem_receive4_replyToClient {datagram : Bytes} {index : UInt32} {interface : String}
    {client : Endpoint4} (member : attempt ∈ (state.receive4 network datagram index).attempts)
    (reply : attempt.purpose = .replyToClient interface client) :
    ∃ view egress name, Datagram.decode datagram = .ok view ∧
      attempt ∈ (state.deliver network (view.payload datagram) egress name).attempts := by
  rw [receive4] at member
  split at member
  · simp at member
  · rename_i view decoded
    refine ⟨view, ?_⟩
    dsimp only at member
    split at member
    · rw [receiveBootp] at member
      dsimp only at member
      split at member
      · simp at member
      · split at member
        · simp at member
        · split at member
          · rcases purpose_of_mem_relayRequest member with ⟨_, _, request⟩
            simp [reply] at request
          · split at member
            · split at member
              · simp at member
              · split at member
                · simp at member
                · exact ⟨_, _, decoded, member⟩
            · simp at member
    · rcases purpose_of_mem_forward member with ⟨_, _, broadcast⟩
      simp [reply] at broadcast

end Relay

end DhcpRelay
