import DhcpRelay.Dhcp4.Compose
import DhcpRelay.Proofs.Agent.Attempts
import DhcpRelay.Proofs.Dhcp4.AgentOptions

/-!
# Validation of replies

With validation on, a reply should reach a client only if it carries an agent
option of this relay.  The agent options are looked for in the option area alone,
while the message type is also looked for in the header fields that an overload
option names.  A reply with its type in one of these fields is not validated.
-/

namespace DhcpRelay

namespace Dhcp4

variable {message : Bytes} {kind : IdentityKind} {links : Topology}

/-- One of the agent options that count is an option of this relay. -/
def CarriesOwnOption (walk : Walk) (kind : IdentityKind) (links : Topology) : Prop :=
  ∃ option ∈ walk.agentOptions, ∃ circuit address,
    AgentInfo.judge option.value kind links = .ours circuit address

/-- Only messages with a magic cookie have a message type. -/
theorem hasCookie_of_typeOf (typed : (typeOf message).isSome) :
    hasCookie message = true := by
  by_contra plain
  have noArea : optionArea message = [] := by
    rw [optionArea, if_neg plain]
  have nothing : search [] messageTypeCode = .ok ⟨none, .none⟩ := by
    rw [search, Framing.walk, Framing.walkFrom]
    rfl
  simp [typeOf, option?, noArea, nothing, Overload.usesFile, Overload.usesSname] at typed

/-- The options of a reply break off, or an agent option among them is malformed. -/
def IsMalformed (walk : Walk) (kind : IdentityKind) (links : Topology) : Prop :=
  walk.truncation?.isSome = true ∨
    ∃ option ∈ walk.agentOptions, AgentInfo.judge option.value kind links = .invalid

/-- A DHCP reply that carries no option of this relay. -/
def LacksOwnOption (walk : Walk) (kind : IdentityKind) (links : Topology) : Prop :=
  walk.isDhcp = true ∧ ¬ CarriesOwnOption walk kind links

theorem isMalformed_iff {walk : Walk} :
    (walk.truncation?.isSome ||
        (walk.agentOptions.map (AgentInfo.judge ·.value kind links)).any (· == .invalid)) = true ↔
      IsMalformed walk kind links := by
  simp [IsMalformed]

theorem not_carriesOwnOption_iff {walk : Walk} (wellFormed : ¬ IsMalformed walk kind links) :
    (walk.agentOptions.map (AgentInfo.judge ·.value kind links)).all (· == .mismatch) = true ↔
      ¬ CarriesOwnOption walk kind links := by
  rw [List.all_map, List.all_eq_true]
  constructor
  · intro foreign carried
    rcases carried with ⟨option, agent, circuit, address, own⟩
    have mismatch := foreign option agent
    simp [own] at mismatch
  · intro lacks option agent
    cases verdict : AgentInfo.judge option.value kind links with
    | ours circuit address => exact absurd ⟨option, agent, circuit, address, verdict⟩ lacks
    | invalid => exact absurd (.inr ⟨option, agent, verdict⟩) wellFormed
    | mismatch => simp [verdict]

theorem unmarkReply_of_isMalformed (cookie : hasCookie message = true)
    (malformed : IsMalformed (optionWalk message) kind links) (validation : Bool) :
    unmarkReply message validation kind links = ⟨.dropInvalid, message⟩ := by
  rw [unmarkReply, cookie]
  exact if_pos (isMalformed_iff.2 malformed)

theorem unmarkReply_of_lacksOwnOption (cookie : hasCookie message = true)
    (wellFormed : ¬ IsMalformed (optionWalk message) kind links)
    (lacks : LacksOwnOption (optionWalk message) kind links) :
    unmarkReply message true kind links = ⟨.dropUnvalidated, message⟩ := by
  rw [unmarkReply, cookie]
  have foreign := (not_carriesOwnOption_iff wellFormed).2 lacks.2
  simp only [Bool.not_true, Bool.false_eq_true, ↓reduceIte, isMalformed_iff, wellFormed, lacks.1,
    foreign, Bool.and_self]

/-- A reply with its type in the option area is validated. -/
theorem carriesOwnOption_of_unmarkReply (cookie : hasCookie message = true)
    (typed : (optionWalk message).isDhcp = true)
    (forwarded : (unmarkReply message true kind links).result = .forward) :
    CarriesOwnOption (optionWalk message) kind links := by
  by_contra lacks
  by_cases malformed : IsMalformed (optionWalk message) kind links
  · rw [unmarkReply_of_isMalformed cookie malformed] at forwarded
    simp at forwarded
  · rw [unmarkReply_of_lacksOwnOption cookie malformed ⟨typed, lacks⟩] at forwarded
    simp at forwarded

/-- A reply without a type in the option area is not. -/
theorem unmarkReply_of_untyped (untyped : (optionWalk message).isDhcp = false)
    (validation : Bool) (kind : IdentityKind) (links : Topology) :
    unmarkReply message validation kind links = unmarkReply message false kind links := by
  simp only [unmarkReply, untyped]
  rfl

end Dhcp4

namespace Relay

/-- The relay without validation of replies. -/
def withoutValidation (state : Relay) : Relay :=
  { state with settings := { state.settings with option82Validation := false } }

variable {state : Relay}

/-- What a reply that goes out was judged by. -/
theorem unmarkReply_eq_forward {message unmarked : Bytes}
    (marking : state.settings.option82Enabled = true)
    (validating : state.settings.option82Validation = true)
    (forwarded : state.unmarkReply message = .ok unmarked) :
    (Dhcp4.unmarkReply message true state.settings.identity state.links).result = .forward := by
  rw [unmarkReply, if_pos marking, validating] at forwarded
  dsimp only at forwarded
  split at forwarded
  · assumption
  · simp at forwarded
  · simp at forwarded

theorem deliver_withoutValidation {message : Bytes} (network : Network)
    (untyped : (Dhcp4.optionWalk message).isDhcp = false) (index : UInt32) (interface : String) :
    state.withoutValidation.deliver network message index interface =
      state.deliver network message index interface := by
  have same : state.withoutValidation.unmarkReply message = state.unmarkReply message := by
    simp only [unmarkReply, withoutValidation]
    rw [Dhcp4.unmarkReply_of_untyped untyped state.settings.option82Validation]
    rfl
  rw [deliver, deliver, same]

theorem receiveBootp_withoutValidation {message : Bytes} (network : Network)
    (view : DatagramView) (untyped : (Dhcp4.optionWalk message).isDhcp = false) (index : UInt32)
    (interface : Option String) (statistics : Statistics) :
    state.withoutValidation.receiveBootp network view message index interface statistics =
      state.receiveBootp network view message index interface statistics := by
  simp only [receiveBootp, deliver_withoutValidation network untyped]
  rfl

theorem receive4_withoutValidation {datagram : Bytes} {view : DatagramView} (network : Network)
    (decoded : Datagram.decode datagram = .ok view)
    (untyped : (Dhcp4.optionWalk (view.payload datagram)).isDhcp = false) (index : UInt32) :
    state.withoutValidation.receive4 network datagram index =
      state.receive4 network datagram index := by
  simp only [receive4, decoded, receiveBootp_withoutValidation network view untyped]
  rfl

/-- Of the DHCP replies that are sent to a client, those with the message type in
the option area carry an option of this relay.  To any other reply validation
makes no difference. -/
theorem carriesOwnOption_iff_isDhcp {network : Network} {datagram : Bytes}
    {index : UInt32} {view : DatagramView} {attempt : Attempt} {interface : String}
    {client : Endpoint4} (marking : state.settings.option82Enabled = true)
    (validating : state.settings.option82Validation = true)
    (decoded : Datagram.decode datagram = .ok view)
    (sent : attempt ∈ (state.receive4 network datagram index).attempts)
    (reply : attempt.purpose = .replyToClient interface client)
    (typed : (Dhcp4.typeOf (view.payload datagram)).isSome) :
    let received := Dhcp4.optionWalk (view.payload datagram)
    (Dhcp4.CarriesOwnOption received state.settings.identity state.links ↔
        received.isDhcp = true) ∧
      (received.isDhcp = false →
        state.receive4 network datagram index =
          state.withoutValidation.receive4 network datagram index) := by
  rcases of_mem_receive4_replyToClient sent reply with ⟨found, egress, name, again, tried⟩
  have same : found = view := Except.ok.inj (again.symm.trans decoded)
  subst same
  rcases of_mem_deliver tried with ⟨unmarked, destination, forwarded, _, _⟩
  have cookie := Dhcp4.hasCookie_of_typeOf typed
  refine ⟨⟨?_, ?_⟩, ?_⟩
  · intro carried
    rcases carried with ⟨option, agent, _⟩
    by_contra untyped
    rw [Walk.agentOptions_eq_nil (Bool.eq_false_iff.2 untyped)] at agent
    exact List.not_mem_nil agent
  · intro inArea
    exact Dhcp4.carriesOwnOption_of_unmarkReply cookie inArea
      (unmarkReply_eq_forward marking validating forwarded)
  · intro untyped
    exact (receive4_withoutValidation network decoded untyped index).symm

/-- A way to the server and a client segment. -/
def twoLinks : Topology :=
  ⟨[⟨2, "eth0", none, false, [⟨⟨10, 0, 0, 1⟩, 24⟩], []⟩,
    ⟨3, "eth1", none, false, [⟨⟨192, 168, 1, 1⟩, 24⟩], []⟩], ⟨List.replicate 6 2, rfl⟩⟩

/-- A relay that marks requests and validates replies. -/
def validatingRelay : Relay :=
  start { Settings.default with option82Enabled := true, option82Validation := true } twoLinks

/-- The datagram of an acknowledgement with these options and, in the `file` field,
these bytes. -/
def acknowledging (options : List (UInt8 × Bytes)) (file : Bytes) : Bytes :=
  let message := Dhcp4.compose ⟨Dhcp4.replyOperation, 7, 0, ⟨192, 168, 1, 50⟩, ⟨192, 168, 1, 1⟩,
    .zero⟩ options
  Datagram.bytes ⟨Dhcp4.sampleServer, ⟨192, 168, 1, 1⟩, 67, 67, 64⟩ (message.overwrite 108 file)

/-- An acknowledgement with the agent option that this relay wrote. -/
def markedReply : Bytes :=
  acknowledging [(53, [5]), (82, Dhcp4.AgentInfo.value 3 (.mac validatingRelay.links.ownMac))] []

theorem carriesOwnOption_iff_isDhcp_markedReply :
    let handled := validatingRelay.receive4 quietNetwork markedReply 2
    ∃ view attempt, Datagram.decode markedReply = .ok view ∧ attempt ∈ handled.attempts ∧
      attempt.purpose = .replyToClient "eth1" ⟨⟨192, 168, 1, 50⟩, 68⟩ ∧
      (Dhcp4.typeOf (view.payload markedReply)).isSome ∧
      Dhcp4.CarriesOwnOption (Dhcp4.optionWalk (view.payload markedReply)) .mac
        validatingRelay.links := by
  have sent : ∃ attempt ∈ (validatingRelay.receive4 quietNetwork markedReply 2).attempts,
      attempt.purpose = .replyToClient "eth1" ⟨⟨192, 168, 1, 50⟩, 68⟩ := by decide +kernel
  rcases sent with ⟨attempt, member, reply⟩
  have decoded : Datagram.decode markedReply =
      .ok ⟨Dhcp4.sampleServer, ⟨192, 168, 1, 1⟩, 64, 67, 67, 28, 300⟩ := by decide +kernel
  have typed : (Dhcp4.typeOf (markedReply.slice 28 328)).isSome := by decide +kernel
  have inArea : (Dhcp4.optionWalk (markedReply.slice 28 328)).isDhcp = true := by decide +kernel
  exact ⟨_, attempt, decoded, member, reply, typed,
    (carriesOwnOption_iff_isDhcp rfl rfl decoded member reply typed).1.2 inArea⟩

/-- An acknowledgement without agent option, with its type in the `file` field. -/
def overloadingReply : Bytes :=
  acknowledging [(52, [1])] [53, 1, 5, 255]

/-- It reaches the client. -/
theorem not_carriesOwnOption_overloadingReply :
    ∃ view attempt, Datagram.decode overloadingReply = .ok view ∧
      attempt ∈ (validatingRelay.receive4 quietNetwork overloadingReply 2).attempts ∧
      attempt.purpose = .replyToClient "eth1" ⟨⟨192, 168, 1, 50⟩, 68⟩ ∧
      Dhcp4.typeOf (view.payload overloadingReply) = some Dhcp4.acknowledgement ∧
      ¬ Dhcp4.CarriesOwnOption (Dhcp4.optionWalk (view.payload overloadingReply)) .mac
        validatingRelay.links := by
  have sent : ∃ attempt ∈ (validatingRelay.receive4 quietNetwork overloadingReply 2).attempts,
      attempt.purpose = .replyToClient "eth1" ⟨⟨192, 168, 1, 50⟩, 68⟩ := by decide +kernel
  rcases sent with ⟨attempt, member, reply⟩
  have decoded : Datagram.decode overloadingReply =
      .ok ⟨Dhcp4.sampleServer, ⟨192, 168, 1, 1⟩, 64, 67, 67, 28, 300⟩ := by decide +kernel
  have typed : Dhcp4.typeOf (overloadingReply.slice 28 328) = some Dhcp4.acknowledgement := by
    decide +kernel
  refine ⟨_, attempt, decoded, member, reply, typed, ?_⟩
  intro carried
  rcases carried with ⟨option, agent, _⟩
  have none : (Dhcp4.optionWalk (overloadingReply.slice 28 328)).agentOptions = [] := by
    decide +kernel
  exact List.ne_nil_of_mem agent none

end Relay

end DhcpRelay
