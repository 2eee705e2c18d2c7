import DhcpRelay.Proofs.Agent.ReplyValidation
import DhcpRelay.Proofs.Dhcp4.AgentRanges
import DhcpRelay.Proofs.Dhcp4.Header

/-!
# The options of unmarked replies

A reply is judged by all of its options before any of them is taken out.  What goes on to a
client is read again by its option walk: it yields the options that stay, and the agent options
are gone for good.
-/

namespace DhcpRelay

open Framing

namespace Framing

variable {code : UInt8} {value : Bytes}

/-! ## The end marker behind parts of an area -/

theorem marker?_walkFrom_replicate_append (offset count : Nat) (area : Bytes) :
    (dhcp4.walkFrom offset (List.replicate count padCode ++ area)).ending.marker? =
      (dhcp4.walkFrom (offset + count) area).ending.marker? := by
  have shifted : dhcp4.read (List.replicate count padCode ++ area) =
      (dhcp4.read area).behind count :=
    read4_replicate_append count area
  rw [walkFrom_eq_walkOf, walkFrom_eq_walkOf, shifted]
  cases dhcp4.read area with
  | exhausted padding => rfl
  | marker padding => simp [Reading.behind, walkOf, Ending.marker?, Nat.add_assoc]
  | truncated padding => rfl
  | option padding code value rest => simp [Reading.behind, walkOf, Nat.add_assoc]

theorem marker?_walkFrom_encode4_append (isCode : IsOptionCode code) (short : value.length < 256)
    (offset : Nat) (area : Bytes) :
    (dhcp4.walkFrom offset (Tlv.encode4 code value ++ area)).ending.marker? =
      (dhcp4.walkFrom (offset + (Tlv.encode4 code value).length) area).ending.marker? := by
  have size : offset + 0 + dhcp4.headerSize + value.length =
      offset + (Tlv.encode4 code value).length := by
    simp only [headerSize, Tlv.encode4, List.length_cons]
    omega
  rw [walkFrom_eq_walkOf, read_encode4_append isCode short, ← size]
  rfl

theorem marker?_walkFrom_endCode_cons (offset : Nat) (area : Bytes) :
    (dhcp4.walkFrom offset (endCode :: area)).ending.marker? = some offset := by
  rw [walkFrom_eq_walkOf]
  rfl

end Framing

namespace Dhcp4

variable {message : Bytes} {validation : Bool} {kind : IdentityKind} {links : Topology}
  {options : List Tlv}

/-! ## Reading what is written -/

theorem contents_stripped_append (fits : ∀ option ∈ options, Fits4 option) (typed : Bool)
    (area : Bytes) :
    dhcp4.contents (stripped typed options ++ area) =
      (dhcp4.contents area).prepend ((separate typed options).others.map Tlv.pair) := by
  induction options generalizing typed with
  | nil => rfl
  | cons option rest ih =>
      rcases fits option List.mem_cons_self with ⟨isCode, code, short⟩
      have later := ih fun found member => fits found (List.mem_cons_of_mem option member)
      rw [stripped, List.append_assoc, List.append_assoc, contents_replicate_append]
      by_cases agent : (typed && option.code == agentInfoCode) = true
      · rw [separate_cons_of_agent agent, if_pos agent, List.nil_append, later]
      · rw [separate_cons_of_other agent, if_neg agent, contents_encode4_append isCode short,
          later, code]
        simp [Tlv.pair]

theorem marker?_walkFrom_stripped_append (fits : ∀ option ∈ options, Fits4 option) (typed : Bool)
    (offset : Nat) (area : Bytes) :
    (dhcp4.walkFrom offset (stripped typed options ++ area)).ending.marker? =
      (dhcp4.walkFrom (offset + (stripped typed options).length) area).ending.marker? := by
  induction options generalizing typed offset with
  | nil => rfl
  | cons option rest ih =>
      rcases fits option List.mem_cons_self with ⟨isCode, code, short⟩
      have later := ih fun found member => fits found (List.mem_cons_of_mem option member)
      rw [stripped, List.append_assoc, List.append_assoc, marker?_walkFrom_replicate_append]
      by_cases agent : (typed && option.code == agentInfoCode) = true
      · rw [if_pos agent, List.nil_append, later]
        simp [Nat.add_assoc]
      · rw [if_neg agent, marker?_walkFrom_encode4_append isCode short, later]
        simp [Nat.add_assoc]

/-- Once the agent options are gone, there are none. -/
theorem agents_eq_nil_of_others {typed : Bool} {read : List Tlv}
    (same : read.map Tlv.code = (separate typed options).others.map Tlv.code) :
    (separate typed read).agents = [] := by
  induction options generalizing typed read with
  | nil =>
      rw [separate, List.map_nil, List.map_eq_nil_iff] at same
      rw [same]
      rfl
  | cons option rest ih =>
      -- What was read starts with this option unless it is the one that went.
      by_cases agent : (typed && option.code == agentInfoCode) = true
      · have isTyped : typed = true := (Bool.and_eq_true_iff.1 agent).1
        rw [separate_cons_of_agent agent, isTyped, Bool.true_or, ← isTyped] at same
        exact ih same
      · rw [separate_cons_of_other agent, List.map_cons] at same
        rcases List.map_eq_cons_iff.1 same with ⟨first, later, rfl, code, behind⟩
        rw [← code] at agent behind
        rw [separate_cons_of_other agent]
        exact ih behind

/-! ## Replies that are not dropped -/

/-- The reply that is sent on in place of one with agent options. -/
def rewritten (message : Bytes) : Bytes :=
  (withoutAgentInfo message (optionWalk message) ++ [endCode]).padTo minimumSize

theorem unmarkReply_of_passes (cookie : hasCookie message = true)
    (wellFormed : ¬ IsMalformed (optionWalk message) kind links)
    (passes : ¬ (validation = true ∧ LacksOwnOption (optionWalk message) kind links)) :
    unmarkReply message validation kind links =
      ⟨.forward, if (optionWalk message).agentOptions = [] then message else rewritten message⟩ := by
  rw [unmarkReply, cookie]
  simp only [Bool.not_true, Bool.false_eq_true, ↓reduceIte, isMalformed_iff, wellFormed,
    List.isEmpty_map, List.isEmpty_iff]
  cases typed : (optionWalk message).isDhcp with
  | false => simp [Walk.agentOptions_eq_nil typed]
  | true =>
      have answered : ¬ (validation && ((optionWalk message).agentOptions.map
          (AgentInfo.judge ·.value kind links)).all (· == .mismatch)) = true := by
        rw [Bool.and_eq_true, not_carriesOwnOption_iff wellFormed]
        exact fun unanswered => passes ⟨unanswered.1, typed, unanswered.2⟩
      rw [if_neg answered]
      simp only [Bool.not_true, Bool.false_eq_true, ↓reduceIte]
      split <;> rfl

/-- Without agent options and without validation there is nothing to do. -/
theorem unmarkReply_eq_self (complete : (optionWalk message).truncation? = none)
    (unmarked : (optionWalk message).agentOptions = []) (kind : IdentityKind) (links : Topology) :
    unmarkReply message false kind links = ⟨.forward, message⟩ := by
  cases cookie : hasCookie message with
  | false =>
      rw [unmarkReply, cookie]
      rfl
  | true =>
      have wellFormed : ¬ IsMalformed (optionWalk message) kind links := by
        simp [IsMalformed, complete, unmarked]
      rw [unmarkReply_of_passes cookie wellFormed (by simp), if_pos unmarked]

/-! ## What a rewritten reply holds -/

theorem exists_drop_rewritten (cookie : hasCookie message = true) :
    let walk := optionWalk message
    ∃ count, (rewritten message).drop optionsStart = stripped false walk.options ++
      (List.replicate walk.ending.padding padCode ++ endCode :: List.replicate count padCode) := by
  intro walk
  have size : (message.take optionsStart).length = optionsStart :=
    List.length_take_of_le (length_of_hasCookie cookie)
  refine ⟨minimumSize - (withoutAgentInfo message walk ++ [endCode]).length, ?_⟩
  rw [rewritten, Bytes.padTo, withoutAgentInfo]
  simp only [List.append_assoc]
  rw [List.drop_left' size]
  rfl

/-- The options that stay are all that is read of it. -/
theorem contents_rewritten (cookie : hasCookie message = true) :
    (optionWalk (rewritten message)).contents =
      ⟨(optionWalk message).otherOptions.map Tlv.pair, false⟩ := by
  rcases exists_drop_rewritten cookie with ⟨count, area⟩
  change dhcp4.contents ((rewritten message).drop optionsStart) = _
  rw [area, contents_stripped_append fits4_of_mem_optionWalk, contents_replicate_append,
    contents_endCode_cons, (separate_options (optionWalk message)).2]
  simp [Contents.prepend]

/-- Its options end with a marker, and behind that there is nothing but padding. -/
theorem exists_marker_rewritten (cookie : hasCookie message = true) :
    ∃ offset count, (optionWalk (rewritten message)).ending.marker? = some offset ∧
      (rewritten message).drop (optionsStart + offset) =
        endCode :: List.replicate count padCode := by
  rcases exists_drop_rewritten cookie with ⟨count, area⟩
  refine ⟨(stripped false (optionWalk message).options).length +
    (optionWalk message).ending.padding, count, ?_, ?_⟩
  · change (dhcp4.walkFrom 0 ((rewritten message).drop optionsStart)).ending.marker? = _
    rw [area, marker?_walkFrom_stripped_append fits4_of_mem_optionWalk,
      marker?_walkFrom_replicate_append, marker?_walkFrom_endCode_cons, Nat.zero_add]
  · rw [← List.drop_drop, area, ← List.append_assoc, List.drop_left' (by simp)]

theorem agentOptions_rewritten (cookie : hasCookie message = true) :
    (optionWalk (rewritten message)).agentOptions = [] := by
  have pairs : (optionWalk (rewritten message)).options.map Tlv.pair =
      (optionWalk message).otherOptions.map Tlv.pair :=
    (Walk.contents_eq_iff.1 (contents_rewritten cookie)).2
  have codes := congrArg (List.map Prod.fst) pairs
  rw [List.map_map, List.map_map, ← (separate_options (optionWalk message)).2] at codes
  rw [← (separate_options (optionWalk (rewritten message))).1]
  exact agents_eq_nil_of_others codes

theorem le_length_rewritten (message : Bytes) : minimumSize ≤ (rewritten message).length := by
  rw [rewritten, Bytes.length_padTo]
  exact Nat.le_max_left _ _

theorem length_rewritten_le (complete : (optionWalk message).truncation? = none)
    (marked : (optionWalk message).agentOptions ≠ []) :
    (rewritten message).length ≤ max minimumSize message.length := by
  rw [rewritten, withoutAgentInfo, List.append_assoc (message.take optionsStart)]
  apply length_ended_le complete marked
  rw [List.length_append, List.length_replicate]

/-! ## What unmarking does -/

/-- `sent` is what a client gets for the reply `received`. -/
structure IsUnmarked (received sent : Bytes) : Prop where
  header : sent.take optionsStart = received.take optionsStart
  /-- A cursor over its options meets no fault and reads those that stay. -/
  options : (Cursor.start .dhcp4 (sent.drop optionsStart)).drain.1.map (·.map Tlv.pair) =
    ((optionWalk received).otherOptions.map Tlv.pair).map .ok
  /-- It is fit to be handled once more: nothing is left to take out. -/
  again : ∀ kind links, unmarkReply sent false kind links = ⟨.forward, sent⟩
  unchanged : (optionWalk received).agentOptions = [] → sent = received
  ends : (optionWalk received).agentOptions ≠ [] → ∃ offset count,
    (Cursor.start .dhcp4 (sent.drop optionsStart)).drain.2.endMarker = some offset ∧
      sent.drop (optionsStart + offset) = endCode :: List.replicate count padCode
  size : (optionWalk received).agentOptions ≠ [] →
    minimumSize ≤ sent.length ∧ sent.length ≤ max minimumSize received.length

theorem isUnmarked_self (complete : (optionWalk message).truncation? = none)
    (unmarked : (optionWalk message).agentOptions = []) : IsUnmarked message message where
  header := rfl
  options := by
    rw [Cursor.map_drain_start_iff, Walk.pairs_otherOptions unmarked]
    exact Walk.contents_eq_iff.2 ⟨complete, rfl⟩
  again := unmarkReply_eq_self complete unmarked
  unchanged := fun _ => rfl
  ends := fun marked => absurd unmarked marked
  size := fun marked => absurd unmarked marked

theorem isUnmarked_rewritten (cookie : hasCookie message = true)
    (complete : (optionWalk message).truncation? = none)
    (marked : (optionWalk message).agentOptions ≠ []) :
    IsUnmarked message (rewritten message) where
  header := by
    have size : (message.take optionsStart).length = optionsStart :=
      List.length_take_of_le (length_of_hasCookie cookie)
    rw [rewritten, withoutAgentInfo, List.append_assoc, List.append_assoc,
      take_padTo_append size]
  options := Cursor.map_drain_start_iff.2 (contents_rewritten cookie)
  again := unmarkReply_eq_self (Walk.contents_eq_iff.1 (contents_rewritten cookie)).1
    (agentOptions_rewritten cookie)
  unchanged := fun unmarked => absurd unmarked marked
  ends := fun _ => by
    rw [Cursor.endMarker_drain_start]
    exact exists_marker_rewritten cookie
  size := fun _ => ⟨le_length_rewritten message, length_rewritten_le complete marked⟩

/-- A reply is dropped if it is malformed, and with validation also if it carries no option of
this relay; it stays as it is then.  Any other is sent on without its agent options, and one
without a cookie as it is. -/
theorem isUnmarked_of_unmarkReply (message : Bytes) (validation : Bool) (kind : IdentityKind)
    (links : Topology) :
    let received := optionWalk message
    let edited := unmarkReply message validation kind links
    (hasCookie message = false → edited = ⟨.forward, message⟩) ∧
      (hasCookie message = true →
        (edited.result = .dropInvalid ↔ IsMalformed received kind links) ∧
        (edited.result = .dropUnvalidated ↔ ¬ IsMalformed received kind links ∧
          validation = true ∧ LacksOwnOption received kind links) ∧
        (edited.result = .forward ↔ ¬ IsMalformed received kind links ∧
          ¬ (validation = true ∧ LacksOwnOption received kind links)) ∧
        (edited.result ≠ .forward → edited.message = message) ∧
        (edited.result = .forward → IsUnmarked message edited.message)) := by
  intro received edited
  constructor
  · intro plain
    exact if_pos (by rw [plain, Bool.not_false])
  intro cookie
  by_cases malformed : IsMalformed received kind links
  · have dropped : edited = ⟨.dropInvalid, message⟩ :=
      unmarkReply_of_isMalformed cookie malformed validation
    simp [dropped, malformed]
  have complete : received.truncation? = none := by
    cases cut : received.truncation? with
    | none => rfl
    | some offset => exact absurd (.inl (by rw [cut]; rfl)) malformed
  by_cases unanswered : validation = true ∧ LacksOwnOption received kind links
  · have dropped : edited = ⟨.dropUnvalidated, message⟩ := by
      rcases unanswered with ⟨rfl, lacks⟩
      exact unmarkReply_of_lacksOwnOption cookie malformed lacks
    simp [dropped, malformed, unanswered]
  · have passed : edited = _ := unmarkReply_of_passes cookie malformed unanswered
    have unmarked : IsUnmarked message edited.message := by
      rw [passed]
      by_cases marked : received.agentOptions = []
      · rw [if_pos marked]
        exact isUnmarked_self complete marked
      · rw [if_neg marked]
        exact isUnmarked_rewritten cookie complete marked
    have forward : edited.result = .forward := by rw [passed]
    simp [forward, malformed, unanswered, unmarked]

/-- A reply with agent options of another relay, one of them ahead of the message type. -/
def foreignReply : Bytes :=
  (compose ⟨replyOperation, 7, 0, .unspecified, .unspecified, .zero⟩ []).take optionsStart ++
    [82, 1, 9, 53, 1, 5, 0, 82, 3, 1, 1, 9, 12, 1, 65, endCode, 7]

/-- That one stays, and so does the padding.  What was behind the end marker is lost. -/
theorem isUnmarked_foreignReply :
    let edited := unmarkReply foreignReply false .mac Relay.twoLinks
    hasCookie foreignReply = true ∧ edited.result = .forward ∧
      edited.message = Bytes.padTo (foreignReply.take optionsStart ++
        [82, 1, 9, 53, 1, 5, 0, 12, 1, 65, endCode]) minimumSize ∧
      IsUnmarked foreignReply edited.message := by
  intro edited
  have cookie : hasCookie foreignReply = true := by decide +kernel
  have forwarded : edited.result = .forward := by decide +kernel
  have written : edited.message = Bytes.padTo (foreignReply.take optionsStart ++
      [82, 1, 9, 53, 1, 5, 0, 12, 1, 65, endCode]) minimumSize := by decide +kernel
  have handled := (isUnmarked_of_unmarkReply foreignReply false .mac Relay.twoLinks).2 cookie
  exact ⟨cookie, forwarded, written, handled.2.2.2.2 forwarded⟩

end Dhcp4

end DhcpRelay
