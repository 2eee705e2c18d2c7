import DhcpRelay.Proofs.Agent.Attempts

/-!
# Sending one packet after the other

A handler that sends tries every packet on its list, whichever of them the network
refuses.  Those it takes are what was sent, and the outcome counts both kinds.
-/

namespace DhcpRelay

/-- The network takes a packet that is sent for a purpose. -/
def Network.takes (network : Network) (purpose : Purpose) (packet : Transmission) : Bool :=
  (network.refuses purpose packet).isNone

/-- The packets that the network takes, in order. -/
def Network.taken (network : Network) (packets : List (Purpose × Transmission)) :
    List Transmission :=
  (packets.filter fun (purpose, packet) => network.takes purpose packet).map Prod.snd

/-- The attempts to send packets, each for its purpose. -/
def sends (network : Network) (packets : List (Purpose × Transmission)) : List Attempt :=
  packets.map fun (purpose, packet) => .send network purpose packet

variable {network : Network}

theorem exists_purpose_of_mem_taken {packets : List (Purpose × Transmission)}
    {packet : Transmission} (member : packet ∈ network.taken packets) :
    ∃ purpose, (purpose, packet) ∈ packets := by
  rcases List.mem_map.1 member with ⟨⟨purpose, packet⟩, kept, rfl⟩
  exact ⟨purpose, (List.mem_filter.1 kept).1⟩

@[simp] theorem Attempt.hasFailed_send (network : Network) (purpose : Purpose)
    (packet : Transmission) :
    (Attempt.send network purpose packet).hasFailed = !network.takes purpose packet := by
  simp [send, hasFailed, Network.takes]

theorem Attempt.delivered_send (network : Network) (purpose : Purpose) (packet : Transmission) :
    (Attempt.send network purpose packet).delivered =
      if network.takes purpose packet then some packet else none := by
  cases answer : network.refuses purpose packet <;>
    simp [send, delivered, Network.takes, answer]

/-- The packets that the network takes are delivered. -/
theorem delivered_sends (network : Network) (packets : List (Purpose × Transmission)) :
    (sends network packets).filterMap (·.delivered) = network.taken packets := by
  induction packets with
  | nil => rfl
  | cons first rest ih =>
      rcases first with ⟨purpose, packet⟩
      rw [sends, List.map_cons, List.filterMap_cons, Network.taken, List.filter_cons,
        Attempt.delivered_send]
      by_cases taken : network.takes purpose packet = true
      · rw [if_pos taken, if_pos taken]
        exact congrArg (packet :: ·) ih
      · rw [if_neg taken, if_neg taken]
        exact ih

/-! ## Attempts that are counted -/

/-- An attempt has failed exactly if it delivers nothing. -/
def Attempt.IsSettled (attempt : Attempt) : Prop :=
  attempt.hasFailed = attempt.delivered.isNone

theorem Attempt.isSettled_send (network : Network) (purpose : Purpose) (packet : Transmission) :
    (Attempt.send network purpose packet).IsSettled := by
  rw [IsSettled, hasFailed_send, delivered_send]
  cases network.takes purpose packet <;> rfl

theorem isSettled_of_mem_sends {packets : List (Purpose × Transmission)} {attempt : Attempt}
    (member : attempt ∈ sends network packets) : attempt.IsSettled := by
  rcases List.mem_map.1 member with ⟨packet, _, rfl⟩
  exact Attempt.isSettled_send network packet.1 packet.2

/-- What was not delivered counts as failed. -/
theorem failures_add_length_delivered {attempts : List Attempt}
    (settled : ∀ attempt ∈ attempts, attempt.IsSettled) :
    failures attempts + (attempts.filterMap (·.delivered)).length = attempts.length := by
  induction attempts with
  | nil => rfl
  | cons attempt rest ih =>
      rw [List.forall_mem_cons] at settled
      have first := settled.1
      have later := ih settled.2
      rw [failures] at later
      rw [Attempt.IsSettled] at first
      rw [failures, List.countP_cons, List.filterMap_cons, first, List.length_cons, ← later]
      cases attempt.delivered with
      | none =>
          simp only [Option.isNone_none, if_true]
          omega
      | some packet =>
          simp only [Option.isNone_some, Bool.false_eq_true, if_false, List.length_cons]
          omega

/-- The outcome of attempts, of which some deliver a packet. -/
theorem ofAttempts_of_settled {attempts : List Attempt} (some : attempts ≠ [])
    (settled : ∀ attempt ∈ attempts, attempt.IsSettled) :
    let taken := attempts.filterMap (·.delivered)
    Outcome.ofAttempts attempts =
      if taken = [] then .dropped .sendFailed
      else .relayed taken.length (attempts.length - taken.length) := by
  intro taken
  have both : failures attempts + taken.length = attempts.length :=
    failures_add_length_delivered settled
  have failed : failures attempts = attempts.length - taken.length := by omega
  have sent : attempts.length - (attempts.length - taken.length) = taken.length := by omega
  have positive := List.length_pos_iff.2 some
  rw [Outcome.ofAttempts, failed, sent]
  by_cases none : taken = []
  · rw [if_pos none, if_pos]
    rw [none]
    exact ⟨rfl, positive⟩
  · rw [if_neg none, if_neg]
    intro both
    exact none (List.length_eq_zero_iff.1 both.1)

theorem ofAttempts_sends (network : Network) {packets : List (Purpose × Transmission)}
    (some : packets ≠ []) :
    let taken := network.taken packets
    Outcome.ofAttempts (sends network packets) =
      if taken = [] then .dropped .sendFailed
      else .relayed taken.length (packets.length - taken.length) := by
  have tried : sends network packets ≠ [] := mt List.map_eq_nil_iff.1 some
  have count : (sends network packets).length = packets.length := List.length_map _
  have outcome := ofAttempts_of_settled tried fun _ member => isSettled_of_mem_sends member
  rw [delivered_sends, count] at outcome
  exact outcome

/-- What comes of relaying that does nothing but try to send. -/
theorem finish_attempts {attempts : List Attempt} (some : attempts ≠ [])
    (settled : ∀ attempt ∈ attempts, attempt.IsSettled) (statistics : Statistics)
    (interface : String) (relayed dropped : Counter) (failing : String) :
    let handled := Relaying.finish (.ok (attempts.map .attempt)) statistics interface relayed
      dropped failing
    handled.attempts = attempts ∧
      handled.outcome =
        if handled.sent = [] then .dropped .sendFailed
        else .relayed handled.sent.length (attempts.length - handled.sent.length) := by
  intro handled
  have tried : handled.attempts = attempts := by
    change (attempts.map Effect.attempt).filterMap (·.attempt?) = attempts
    rw [List.filterMap_map]
    exact List.filterMap_some
  have outcome : handled.outcome = .ofAttempts handled.attempts := rfl
  rw [outcome, Handled.sent, tried]
  exact ⟨rfl, ofAttempts_of_settled some settled⟩

/-- What comes of relaying that does nothing but send. -/
theorem finish_sends {packets : List (Purpose × Transmission)} (some : packets ≠ [])
    (statistics : Statistics) (interface : String) (relayed dropped : Counter)
    (failing : String) :
    let handled := Relaying.finish (.ok ((sends network packets).map .attempt)) statistics
      interface relayed dropped failing
    handled.effects = (sends network packets).map .attempt ∧
      handled.sent = network.taken packets ∧
      handled.outcome =
        if handled.sent = [] then .dropped .sendFailed
        else .relayed handled.sent.length (packets.length - handled.sent.length) := by
  intro handled
  have tried : sends network packets ≠ [] := mt List.map_eq_nil_iff.1 some
  have count : (sends network packets).length = packets.length := List.length_map _
  rcases finish_attempts tried (fun _ member => isSettled_of_mem_sends member) statistics
    interface relayed dropped failing with ⟨attempts, outcome⟩
  rw [count] at outcome
  refine ⟨rfl, ?_, outcome⟩
  rw [Handled.sent, show handled.attempts = _ from attempts, delivered_sends]

/-- What comes of delivering one packet, with or without a neighbour to install first. -/
theorem finish_delivery {installs : List Effect}
    (silent : installs.filterMap (·.attempt?) = []) (network : Network) (purpose : Purpose)
    (packet : Transmission) (statistics : Statistics) (interface : String)
    (relayed dropped : Counter) (failing : String) :
    let effects := installs ++ (sends network [(purpose, packet)]).map .attempt
    (Relaying.finish (.ok effects) statistics interface relayed dropped failing).outcome =
      if network.takes purpose packet then .relayed 1 0 else .dropped .sendFailed := by
  intro effects
  have attempts : effects.filterMap (·.attempt?) = sends network [(purpose, packet)] := by
    rw [List.filterMap_append, silent]
    rfl
  have outcome := ofAttempts_sends network (List.cons_ne_nil (purpose, packet) [])
  change Outcome.ofAttempts (effects.filterMap (·.attempt?)) = _
  rw [attempts, outcome]
  cases taken : network.takes purpose packet <;> simp [Network.taken, taken]

end DhcpRelay
