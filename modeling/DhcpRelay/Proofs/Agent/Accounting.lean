import DhcpRelay.Agent.Dhcp6
import DhcpRelay.Proofs.Agent.RequestPath
import DhcpRelay.Proofs.Agent.Statistics
import DhcpRelay.Proofs.Rollout.Visibility

/-!
# What is counted

Each packet raises one counter of one interface that says what became of it, and the
counter of failed sends by the sends that failed.  Only packets that are refused by a
switch, and replies that are on the wire already, raise none.  So over a whole run the
counters are the numbers of the packets that raised them.
-/

namespace DhcpRelay

namespace Counter

/-- The counters that say what became of a packet. -/
def outcomes : List Counter :=
  [v4ClientRelayed, v4ClientDropped, v4ServerRelayed, v4ServerDropped, udpForwarded, udpDropped,
    v6ClientRelayed, v6ClientDropped, v6ServerRelayed, v6ServerDropped, badPackets]

/-- Those of packets that were sent on. -/
def successes : List Counter :=
  [v4ClientRelayed, v4ServerRelayed, udpForwarded, v6ClientRelayed, v6ServerRelayed]

theorem mem_outcomes_of_mem_successes {counter : Counter} (member : counter ∈ successes) :
    counter ∈ outcomes := by
  revert counter
  decide

theorem sendFailures_not_mem_outcomes : sendFailures ∉ outcomes := by
  decide

/-- The kind of a message says nothing about what becomes of it. -/
theorem not_mem_outcomes_of_ofMessage {operation : UInt8} {type : Option UInt8}
    {counter : Counter} (counted : ofMessage operation type = some counter) :
    counter ∉ outcomes ∧ counter ≠ .sendFailures := by
  unfold ofMessage at counted
  split at counted
  all_goals try split at counted
  all_goals cases counted
  all_goals decide

end Counter

/-- A counter of an interface. -/
abbrev Account := String × Counter

/-! ## One packet -/

/-- What was counted has nothing to do with what became of packets. -/
structure Statistics.SameOutcomes (before after : Statistics) : Prop where
  values : ∀ interface, ∀ counter ∈ Counter.outcomes,
    after.value interface counter = before.value interface counter
  failures : after.total .sendFailures = before.total .sendFailures

/-- Of the outcome counters, one account at most is raised, and by one.  It is one of a
success exactly if the packet was sent on, and there is none only where the reply is on the
wire already or the packet was refused.  The failed sends of all interfaces rise by those of
this packet. -/
structure Handled.Raises (handled : Handled) (before : Statistics) (refused : Prop)
    (raised : Option Account) : Prop where
  values : ∀ interface, ∀ counter ∈ Counter.outcomes,
    handled.statistics.value interface counter =
      before.value interface counter + if raised = some (interface, counter) then 1 else 0
  isOutcome : ∀ account ∈ raised, account.2 ∈ Counter.outcomes
  success : (∃ account ∈ raised, account.2 ∈ Counter.successes) ↔
    handled.outcome.isSuccess = true
  excused : raised = none →
    handled.outcome = .dropped .broadcastReply ∨ handled.outcome = .dropped .disabled ∧ refused
  failures : handled.statistics.total .sendFailures =
    before.total .sendFailures + failures handled.attempts

namespace Statistics

theorem SameOutcomes.refl (statistics : Statistics) : SameOutcomes statistics statistics :=
  ⟨fun _ _ _ => rfl, rfl⟩

theorem sameOutcomes_touch (statistics : Statistics) (interface : String) :
    SameOutcomes statistics (statistics.touch interface) :=
  ⟨fun _ _ _ => value_touch .., total_touch ..⟩

theorem sameOutcomes_bump (statistics : Statistics) (interface : String) {counter : Counter}
    (other : counter ∉ Counter.outcomes ∧ counter ≠ .sendFailures) :
    SameOutcomes statistics (statistics.bump interface counter) := by
  constructor
  · intro name outcome member
    have different : counter ≠ outcome := fun same => other.1 (same ▸ member)
    rw [bump, value_add, if_neg fun both => different both.2]
    rfl
  · rw [bump, total_add, if_neg other.2]
    rfl

end Statistics

namespace Handled

variable {handled : Handled} {before statistics : Statistics} {refused : Prop}
  {raised : Option Account}

theorem Raises.of_sameOutcomes (raises : handled.Raises statistics refused raised)
    (same : before.SameOutcomes statistics) : handled.Raises before refused raised := by
  refine ⟨?_, raises.isOutcome, raises.success, raises.excused, ?_⟩
  · intro interface counter member
    rw [raises.values interface counter member, same.values interface counter member]
  · rw [raises.failures, same.failures]

theorem Raises.mono (raises : handled.Raises before refused raised) {other : Prop}
    (weaker : refused → other) : handled.Raises before other raised :=
  { raises with excused := fun none => (raises.excused none).imp_right (.imp_right weaker) }

theorem raises_dropped {reason : DropCause}
    (excused : reason = .broadcastReply ∨ reason = .disabled ∧ refused)
    (statistics : Statistics) :
    (dropped reason statistics).Raises statistics refused none := by
  refine ⟨fun _ _ _ => rfl, nofun, ?_, fun _ => ?_, rfl⟩
  · simp [dropped, Outcome.isSuccess]
  · simpa [dropped] using excused

theorem raises_badPackets (reason : DropCause) (statistics : Statistics) (interface : String) :
    (dropped reason (statistics.bump interface .badPackets)).Raises statistics refused
      (some (interface, .badPackets)) := by
  refine ⟨?_, ?_, ?_, nofun, ?_⟩
  · intro name counter _
    simp only [dropped, Statistics.bump, Statistics.value_add, Option.some.injEq, Prod.mk.injEq]
  · intro account member
    cases member
    change Counter.badPackets ∈ Counter.outcomes
    decide
  · simp [dropped, Outcome.isSuccess, Counter.successes]
  · rw [dropped, Statistics.bump, Statistics.total_add]
    rfl

/-- What is relayed raises the counter of its outcome. -/
theorem raises_finish (relaying : Relaying) (statistics : Statistics) (interface : String)
    {relayed dropped : Counter} (success : relayed ∈ Counter.successes)
    (failure : dropped ∈ Counter.outcomes ∧ dropped ∉ Counter.successes) (failing : String) :
    (relaying.finish statistics interface relayed dropped failing).Raises statistics refused
      (some (interface, if relaying.outcome.isSuccess then relayed else dropped)) := by
  generalize finished : relaying.finish statistics interface relayed dropped failing = handled
  generalize raising : (if relaying.outcome.isSuccess then relayed else dropped) = counter
  let failed := DhcpRelay.failures relaying.attempts
  have isOutcome : counter ∈ Counter.outcomes := by
    subst raising
    split
    · exact Counter.mem_outcomes_of_mem_successes success
    · exact failure.1
  have books : handled.statistics =
      (if failed = 0 then statistics else statistics.add failing .sendFailures failed).bump
        interface counter := by
    rw [← finished, ← raising]
    rfl
  refine ⟨?_, ?_, ?_, nofun, ?_⟩
  · intro name outcome member
    have other : Counter.sendFailures ≠ outcome := by
      rintro rfl
      exact Counter.sendFailures_not_mem_outcomes member
    have untouched : (if failed = 0 then statistics
        else statistics.add failing .sendFailures failed).value name outcome =
          statistics.value name outcome := by
      split
      · rfl
      · rw [Statistics.value_add, if_neg fun both => other both.2]
        rfl
    rw [books, Statistics.bump, Statistics.value_add, untouched]
    simp only [Option.some.injEq, Prod.mk.injEq]
  · intro account member
    cases member
    exact isOutcome
  · have outcome : handled.outcome = relaying.outcome := finished ▸ rfl
    rw [outcome, ← raising]
    cases relaying.outcome.isSuccess with
    | true => simp [success]
    | false => simp [failure.2]
  · have other : counter ≠ .sendFailures := by
      rintro rfl
      exact Counter.sendFailures_not_mem_outcomes isOutcome
    have attempts : handled.attempts = relaying.attempts := finished ▸ rfl
    rw [books, Statistics.bump, Statistics.total_add, if_neg other, attempts]
    split
    · rename_i none
      rw [Nat.add_zero]
      exact (none ▸ Nat.add_zero _).symm
    · rw [Statistics.total_add, if_pos rfl, Nat.add_zero]

end Handled

namespace Relay

variable {state : Relay}

/-- A packet that comes in. -/
inductive Packet where
  | datagram (bytes : Bytes)
  | message6 (bytes : Bytes) (source : IPv6)

/-- Handle a packet that came in on an interface. -/
def receive (state : Relay) (network : Network) (packet : Packet) (index : UInt32) : Handled :=
  match packet with
  | .datagram bytes => state.receive4 network bytes index
  | .message6 bytes source => state.receive6 network bytes source index

/-- The packet is for a relay that is switched off. -/
def Refuses (state : Relay) : Packet → Prop
  | .datagram bytes => state.settings.relayEnabled = false ∧
      ∃ view, Datagram.decode bytes = .ok view ∧ ForDhcp view
  | .message6 _ _ => state.settings.v6RelayEnabled = false

/-- The kind of a message is counted beside what becomes of it. -/
theorem sameOutcomes_ofMessage (statistics : Statistics) (interface : String)
    (operation : UInt8) (type : Option UInt8) :
    statistics.SameOutcomes
      (match Counter.ofMessage operation type with
        | some counter => statistics.bump interface counter
        | none => statistics) := by
  cases counted : Counter.ofMessage operation type with
  | none => exact .refl statistics
  | some counter =>
      exact statistics.sameOutcomes_bump interface (Counter.not_mem_outcomes_of_ofMessage counted)

theorem exists_raises_receiveBootp (state : Relay) (network : Network) (view : DatagramView)
    (message : Bytes) (index : UInt32) (interface : Option String) (statistics : Statistics) :
    ∃ raised,
      (state.receiveBootp network view message index interface statistics).Raises statistics
        (state.settings.relayEnabled = false) raised := by
  unfold receiveBootp
  dsimp only
  split
  · rename_i disabled
    rw [Bool.not_eq_true'] at disabled
    exact ⟨_, Handled.raises_dropped (.inr ⟨rfl, disabled⟩) statistics⟩
  split
  · exact ⟨_, Handled.raises_badPackets ..⟩
  have same := sameOutcomes_ofMessage statistics (counted interface) (Dhcp4.operation message)
    (Dhcp4.typeOf message)
  split
  · exact ⟨_, (Handled.raises_finish _ _ _ (by decide) (by decide) _).of_sameOutcomes same⟩
  split
  · split
    · exact ⟨_, (Handled.raises_dropped (.inl rfl) _).of_sameOutcomes same⟩
    · split
      · exact ⟨_, (Handled.raises_finish _ _ _ (by decide) (by decide) _).of_sameOutcomes same⟩
      · exact ⟨_, (Handled.raises_finish _ _ _ (by decide) (by decide) _).of_sameOutcomes same⟩
  · exact ⟨_, (Handled.raises_badPackets ..).of_sameOutcomes same⟩

theorem exists_raises_receive4 (state : Relay) (network : Network) (datagram : Bytes)
    (index : UInt32) :
    ∃ raised,
      (state.receive4 network datagram index).Raises state.statistics
        (state.Refuses (.datagram datagram)) raised := by
  have same := state.statistics.sameOutcomes_touch (counted (state.links.name? index))
  unfold receive4
  dsimp only
  split
  · exact ⟨_, (Handled.raises_badPackets ..).of_sameOutcomes same⟩
  rename_i view decoded
  split
  · rename_i forDhcp
    rcases exists_raises_receiveBootp state network view (view.payload datagram) index
      (state.links.name? index) (state.statistics.touch (counted (state.links.name? index))) with
      ⟨raised, raises⟩
    exact ⟨raised, (raises.mono fun disabled => ⟨disabled, view, decoded, forDhcp⟩).of_sameOutcomes
      same⟩
  · exact ⟨_, (Handled.raises_finish _ _ _ (by decide) (by decide) _).of_sameOutcomes same⟩

theorem exists_raises_receiveFromServer6 (state : Relay) (network : Network)
    (type : Dhcp6.MessageType) (message : Bytes) (ingress : String) (statistics : Statistics)
    (refused : Prop) :
    ∃ raised,
      (state.receiveFromServer6 network type message ingress statistics).Raises statistics refused
        raised := by
  unfold receiveFromServer6
  dsimp only
  split
  · exact ⟨_, Handled.raises_finish _ _ _ (by decide) (by decide) _⟩
  split
  · exact ⟨_, Handled.raises_finish _ _ _ (by decide) (by decide) _⟩
  · exact ⟨_, Handled.raises_finish _ _ _ (by decide) (by decide) _⟩

theorem exists_raises_receive6 (state : Relay) (network : Network) (message : Bytes)
    (source : IPv6) (index : UInt32) :
    ∃ raised,
      (state.receive6 network message source index).Raises state.statistics
        (state.Refuses (.message6 message source)) raised := by
  unfold receive6
  dsimp only
  split
  · rename_i disabled
    rw [Bool.not_eq_true'] at disabled
    exact ⟨_, Handled.raises_dropped (.inr ⟨rfl, disabled⟩) _⟩
  have same := state.statistics.sameOutcomes_touch (counted (state.links.name? index))
  split
  · exact ⟨_, (Handled.raises_badPackets ..).of_sameOutcomes same⟩
  split
  · exact ⟨_, (Handled.raises_badPackets ..).of_sameOutcomes same⟩
  split
  · exact ⟨_, (Handled.raises_finish _ _ _ (by decide) (by decide) _).of_sameOutcomes same⟩
  · rcases exists_raises_receiveFromServer6 state network _ message _ _ _ with ⟨raised, raises⟩
    exact ⟨raised, raises.of_sameOutcomes same⟩

/-! ## Runs -/

/-- A packet that came in, and the relay as it was then. -/
structure Call where
  state : Relay
  network : Network
  packet : Packet
  index : UInt32

/-- What came of the packet. -/
def Call.handled (call : Call) : Handled :=
  call.state.receive call.network call.packet call.index

/-- The packet raises an account, or none. -/
def Call.Raises (call : Call) (raised : Option Account) : Prop :=
  call.handled.Raises call.state.statistics (call.state.Refuses call.packet) raised

theorem Call.exists_raises (call : Call) : ∃ raised, call.Raises raised := by
  rcases call with ⟨state, network, packet, index⟩
  cases packet with
  | datagram bytes => exact exists_raises_receive4 state network bytes index
  | message6 bytes source => exact exists_raises_receive6 state network bytes source index

/-- The relay after a packet. -/
def Call.after (call : Call) : Relay :=
  { call.state with statistics := call.handled.statistics }

/-- A run of a relay: packets come in, and between them settings, servers and interfaces
change. -/
inductive Runs : Relay → List Call → Relay → Prop where
  | nil (state : Relay) : Runs state [] state
  | packet {call : Call} {calls : List Call} {last : Relay} :
      Runs call.after calls last → Runs call.state (call :: calls) last
  | update {subject : Subject} {state next last : Relay} {calls : List Call} :
      Update subject state next → Runs next calls last → Runs state calls last
  | interfaces {state last : Relay} {calls : List Call} (links : Topology) :
      Runs { state with links := links } calls last → Runs state calls last

theorem statistics_of_update {subject : Subject} {before after : Relay}
    (update : Update subject before after) : after.statistics = before.statistics := by
  cases update <;> rfl

theorem Runs.of_updates {subjects : List Subject} {visible : List Relay}
    {before between last : Relay} {calls : List Call}
    (updates : Updates before subjects visible between) (runs : Runs between calls last) :
    Runs before calls last := by
  induction updates with
  | nil => exact runs
  | cons update _ ih => exact .update update (ih runs)

/-- A document may be applied at any time of a run. -/
theorem Runs.apply {state : ManagedRelay} {access : GroupAccess} {document : Document}
    {last : Relay} {calls : List Call}
    (runs : Runs (state.apply access document).after.relay calls last) :
    Runs state.relay calls last := by
  rcases ManagedRelay.updates_apply state access document with ⟨subjects, _, updates⟩
  exact .of_updates updates runs

/-- Over a run each packet raises one account at most, and the accounts are the numbers of
packets that raised them.  The failed sends of all interfaces are those of all packets. -/
theorem accounts_of_runs {before after : Relay} {calls : List Call}
    (runs : Runs before calls after) :
    ∃ raised : List (Option Account), List.Forall₂ Call.Raises calls raised ∧
      (∀ interface, ∀ counter ∈ Counter.outcomes,
        after.statistics.value interface counter =
          before.statistics.value interface counter + raised.count (some (interface, counter))) ∧
      after.statistics.total .sendFailures =
        before.statistics.total .sendFailures +
          (calls.map fun call => failures call.handled.attempts).sum := by
  induction runs with
  | nil state => exact ⟨[], .nil, fun _ _ _ => rfl, rfl⟩
  | @packet call calls last _ ih =>
      rcases ih with ⟨others, later, values, failures⟩
      rcases call.exists_raises with ⟨raised, raises⟩
      refine ⟨raised :: others, .cons raises later, ?_, ?_⟩
      · intro interface counter member
        have here : call.after.statistics.value interface counter = _ :=
          raises.values interface counter member
        rw [values interface counter member, here, List.count_cons]
        simp only [beq_iff_eq]
        omega
      · have here : call.after.statistics.total .sendFailures = _ := raises.failures
        rw [failures, here, List.map_cons, List.sum_cons, Nat.add_assoc]
  | update change _ ih => exact statistics_of_update change ▸ ih
  | interfaces links _ ih => exact ih

/-- A document that switches the DHCPv4 relay off. -/
def closingDocument : Document :=
  ⟨Document.standardVrf, Table.empty.put Settings.relayDisabledKey "true", []⟩

/-- One of two servers is not reached, then the relay is switched off, and last comes a
datagram without bytes on an interface that there is not. -/
theorem accounts_of_runs_closingDocument :
    let first : Call := ⟨helperRelay, brokenNetwork, .datagram discover, 3⟩
    let closed : ManagedRelay :=
      (ManagedRelay.apply ⟨first.after, .empty⟩ ⟨fun _ => none, fun _ => none⟩
        closingDocument).after
    let second : Call := ⟨closed.relay, brokenNetwork, .datagram discover, 3⟩
    let third : Call := ⟨second.after, brokenNetwork, .datagram [], 9⟩
    Runs helperRelay [first, second, third] third.after ∧
      third.after.statistics.total .sendFailures = 1 ∧
      ∃ raised, List.Forall₂ Call.Raises [first, second, third] raised ∧
        raised.count (some ("eth1", .v4ClientRelayed)) = 1 ∧
        raised.count (some ("-", .badPackets)) = 1 := by
  intro first closed second third
  have ended : Runs third.state [third] third.after := .packet (.nil third.after)
  have refused : Runs second.state [second, third] third.after := .packet ended
  have opened : Runs first.after [second, third] third.after :=
    @Runs.apply ⟨first.after, .empty⟩ _ closingDocument _ _ refused
  have runs : Runs helperRelay [first, second, third] third.after :=
    show Runs first.state _ _ from .packet opened
  rcases accounts_of_runs runs with ⟨raised, each, values, failures⟩
  have failed : (([first, second, third] : List Call).map fun call =>
      DhcpRelay.failures call.handled.attempts).sum = 1 := by decide +kernel
  have none : helperRelay.statistics.total .sendFailures = 0 := by decide +kernel
  rw [failed, none] at failures
  have relayed := values "eth1" .v4ClientRelayed (by decide)
  have bad := values "-" .badPackets (by decide)
  have relayedOnce : third.after.statistics.value "eth1" .v4ClientRelayed = 1 := by
    decide +kernel
  have badOnce : third.after.statistics.value "-" .badPackets = 1 := by decide +kernel
  have fresh : helperRelay.statistics.value "eth1" .v4ClientRelayed = 0 := by decide +kernel
  have clean : helperRelay.statistics.value "-" .badPackets = 0 := by decide +kernel
  refine ⟨runs, failures, raised, each, ?_, ?_⟩
  · omega
  · omega

end Relay

end DhcpRelay
