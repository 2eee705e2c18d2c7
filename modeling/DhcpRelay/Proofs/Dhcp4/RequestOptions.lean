import DhcpRelay.Dhcp4.Compose
import DhcpRelay.Proofs.Bytes
import DhcpRelay.Proofs.CursorWalk
import DhcpRelay.Proofs.Dhcp4.AgentOptions
import Mathlib.Data.List.Basic

/-!
# The options of marked requests

A marked request holds the options of the request, less the agent options that
were taken out, and then the relay's own.  The zero bytes in front of the end
marker are cut off first, though, and they may be the tail of an option: this is
the one way in which marking spoils an option that it should leave alone.
-/

namespace DhcpRelay

namespace Walk

open Dhcp4

/-- The last option that stays in the message has a value that is not empty and
does not end in a zero byte. -/
def EndsVisibly (walk : Walk) : Prop :=
  ∃ option byte, walk.otherOptions.getLast? = some option ∧
    option.value.getLast? = some byte ∧ byte ≠ 0

end Walk

namespace Dhcp4

open Framing

/-! ## The kept area -/

/-- The options of a request without its agent options and without zero bytes at
the end, as marking puts them in front of what it adds. -/
def keptArea (message : Bytes) : Bytes :=
  Bytes.trimZeros (stripped false (optionWalk message).options)

theorem trimOptions_withoutAgentInfo {message : Bytes} (cookie : hasCookie message = true) :
    trimOptions (withoutAgentInfo message (optionWalk message)) =
      message.take optionsStart ++ keptArea message := by
  have size : (message.take optionsStart).length = optionsStart :=
    List.length_take_of_le (length_of_hasCookie cookie)
  rw [trimOptions, withoutAgentInfo, List.append_assoc, List.take_left' size,
    List.drop_left' size]
  exact congrArg _ (Bytes.trimZeros_append_replicate _ _)

theorem getLast?_encode4 (code : UInt8) (value : Bytes) :
    (Tlv.encode4 code value).getLast? = some (value.getLast?.getD 0) := by
  cases value with
  | nil => rfl
  | cons byte rest => simp [Tlv.encode4, List.getLast?_cons]

theorem endsVisibly_iff {walk : Walk} {before : List Tlv} {last : Tlv}
    (kept : walk.otherOptions = before ++ [last]) (code : UInt8) :
    walk.EndsVisibly ↔ (Tlv.encode4 code last.value).getLast? ≠ some 0 := by
  rw [getLast?_encode4, Walk.EndsVisibly, kept]
  cases final : last.value.getLast? with
  | none => simp [final]
  | some byte => simp [final]

/-- A byte that is not zero, put behind the kept area, leaves its options alone
exactly if the last of them does not end in zero bytes. -/
theorem contents_keptArea_append_iff {message rest : Bytes} {mark : UInt8}
    {added : List (UInt16 × Bytes)} (typed : (optionWalk message).isDhcp = true)
    (visible : mark ≠ 0) (behind : dhcp4.contents (mark :: rest) = ⟨added, false⟩) :
    dhcp4.contents (keptArea message ++ mark :: rest) =
        ⟨(optionWalk message).otherOptions.map Tlv.pair ++ added, false⟩ ↔
      (optionWalk message).EndsVisibly := by
  rcases (List.eq_nil_or_concat' _).resolve_left (Walk.otherOptions_ne_nil typed) with
    ⟨before, last, kept⟩
  have member : last ∈ (optionWalk message).otherOptions := by
    rw [kept]
    exact List.mem_append_right before (List.mem_singleton_self last)
  rcases fits4_of_mem_optionWalk last (Walk.mem_options_of_mem_otherOptions member) with
    ⟨isCode, code, short⟩
  rcases stripped_of_others_append fits4_of_mem_optionWalk
      ((separate_options (optionWalk message)).2.trans kept) with ⟨front, count, equal, contents⟩
  have area : keptArea message =
      front ++ Bytes.trimZeros (Tlv.encode4 last.code.toUInt8 last.value) := by
    have written := Bytes.trimZeros_ne_nil isCode.1 (UInt8.ofNat last.value.length :: last.value)
    rw [keptArea, equal, Bytes.trimZeros_append_of_ne_nil, Bytes.trimZeros_append_replicate]
    rw [Bytes.trimZeros_append_replicate]
    exact written
  have expected : (⟨(optionWalk message).otherOptions.map Tlv.pair ++ added, false⟩ : Contents) =
      Contents.prepend (before.map Tlv.pair) ⟨last.pair :: added, false⟩ := by
    simp [Contents.prepend, kept]
  rw [area, List.append_assoc, contents, expected, Contents.prepend_inj,
    endsVisibly_iff kept last.code.toUInt8]
  constructor
  · intro read zero
    rcases Bytes.exists_append_replicate_of_trimZeros
        (Tlv.encode4 last.code.toUInt8 last.value) with ⟨cut, split⟩
    cases cut with
    | zero =>
        rw [List.replicate_zero, List.append_nil] at split
        exact Bytes.getLast?_trimZeros _ (split ▸ zero)
    | succ cut => exact contents_cut_ne isCode short split visible read
  · intro ends
    rw [Bytes.trimZeros_eq_self ends, contents_encode4_append isCode short, behind, code]
    rfl

/-! ## What marking does -/

/-- The identity that goes into a request: this relay's, if it is known, the
request is DHCP and the option fits. -/
def addedIdentity (message : Bytes) (identity : Option Identity) : Option Identity :=
  let walk := optionWalk message
  let size := (trimOptions (withoutAgentInfo message walk)).length
  identity.filter fun identity =>
    walk.isDhcp && fits walk.maximumSize (size + AgentInfo.optionSize identity.kind + 1)

/-- The option that carries an identity. -/
def identityOption (circuit : UInt32) (identity : Option Identity) : List (UInt16 × Bytes) :=
  identity.toList.map fun identity => (agentInfoCode, AgentInfo.value circuit identity)

theorem length_value_lt (circuit : UInt32) (identity : Identity) :
    (AgentInfo.value circuit identity).length < 256 := by
  have size := AgentInfo.length_value circuit identity
  have small : AgentInfo.optionSize identity.kind < 256 := by cases identity.kind <;> decide
  omega

theorem contents_insertion_append (circuit : UInt32) (identity : Identity) (area : Bytes) :
    dhcp4.contents (AgentInfo.insertion circuit identity ++ area) =
      ⟨identityOption circuit (some identity), false⟩ := by
  rw [AgentInfo.insertion, List.append_assoc,
    contents_encode4_append (by decide) (length_value_lt circuit identity), List.singleton_append,
    contents_endCode_cons]
  rfl

theorem firstDecision_true {policy : AgentPolicy} {options : List Tlv}
    (undecided : firstDecision policy true options = none) {option : Tlv}
    (member : option ∈ options) (agent : option.code = agentInfoCode) : policy = .replace := by
  induction options with
  | nil => simp at member
  | cons first rest ih =>
      rw [firstDecision] at undecided
      split at undecided
      · simp at undecided
      · rename_i none
        rcases List.mem_cons.1 member with rfl | later
        · have notSize : ¬ agentInfoCode = maximumSizeCode := by decide
          cases policy <;> simp_all [decisive]
        · exact ih undecided later

/-- Only a policy that replaces agent options goes on with a request that has any. -/
theorem eq_replace_of_firstDecision {policy : AgentPolicy} {walk : Walk}
    (undecided : firstDecision policy false walk.options = none)
    (marked : walk.agentOptions ≠ []) : policy = .replace := by
  rcases List.exists_mem_of_ne_nil _ marked with ⟨option, member⟩
  rcases List.mem_filter.1 member with ⟨behind, isAgent⟩
  have agent : option.code = agentInfoCode := beq_iff_eq.1 isAgent
  generalize walk.options = options at undecided behind
  induction options with
  | nil => simp at behind
  | cons first rest ih =>
      rw [firstDecision] at undecided
      split at undecided
      · simp at undecided
      · by_cases type : first.code = messageTypeCode
        · have later : option ∈ rest := by
            rw [List.dropWhile_cons_of_neg (by simp [type]), List.mem_cons] at behind
            rcases behind with rfl | later
            · rw [type] at agent
              exact absurd agent (by decide)
            · exact later
          refine firstDecision_true ?_ later agent
          simpa [type] using undecided
        · rw [List.dropWhile_cons_of_pos (by simp [type])] at behind
          exact ih (by simpa [beq_false_of_ne type] using undecided) behind

theorem decisive_ne_forward (policy : AgentPolicy) (typed : Bool) (option : Tlv) :
    decisive policy typed option ≠ some (.ok .forward) := by
  unfold decisive
  split
  · split <;> simp
  · split
    · cases policy <;> simp
    · simp

theorem firstDecision_ne_forward (policy : AgentPolicy) (typed : Bool) (options : List Tlv) :
    firstDecision policy typed options ≠ some (.ok .forward) := by
  induction options generalizing typed with
  | nil => simp [firstDecision]
  | cons option rest ih =>
      rw [firstDecision]
      split
      · rename_i decision decided
        rw [← decided]
        exact decisive_ne_forward policy typed option
      · exact ih _

theorem decision_ne_forward (policy : AgentPolicy) (walk : Walk) :
    decision policy walk ≠ some (.ok .forward) := by
  rw [decision]
  split
  · rename_i decision decided
    rw [← decided]
    exact firstDecision_ne_forward policy false walk.options
  · simp

/-! ## What marking answers -/

section Answers

variable {message : Bytes} {policy : AgentPolicy} {circuit : UInt32} {identity : Option Identity}
  {answer : Except MessageFault RequestFate}

theorem markRequest_of_plain (plain : hasCookie message = false) (policy : AgentPolicy)
    (circuit : UInt32) (identity : Option Identity) :
    markRequest message policy circuit identity = ⟨.ok .forward, message⟩ := by
  rw [markRequest, plain, Bool.not_false, if_pos rfl]

theorem markRequest_of_decision (cookie : hasCookie message = true)
    (decided : decision policy (optionWalk message) = some answer) (circuit : UInt32)
    (identity : Option Identity) :
    markRequest message policy circuit identity = ⟨answer, message⟩ := by
  simp only [markRequest, cookie, decided, Bool.not_true, Bool.false_eq_true, ↓reduceIte]

theorem result_of_decision_eq_none (cookie : hasCookie message = true)
    (undecided : decision policy (optionWalk message) = none) :
    (markRequest message policy circuit identity).result = .ok .forward := by
  simp only [markRequest, cookie, undecided, Bool.not_true, Bool.false_eq_true, ↓reduceIte]
  split <;> rfl

/-- A request is forwarded only if nothing in its options decides otherwise. -/
theorem decision_of_forward (cookie : hasCookie message = true)
    (forwarded : (markRequest message policy circuit identity).result = .ok .forward) :
    decision policy (optionWalk message) = none := by
  cases decided : decision policy (optionWalk message) with
  | none => rfl
  | some answer =>
      rw [markRequest_of_decision cookie decided] at forwarded
      exact absurd (forwarded ▸ decided) (decision_ne_forward policy (optionWalk message))

end Answers

/-! ## What marking leaves -/

theorem of_decision_eq_none {policy : AgentPolicy} {walk : Walk}
    (undecided : decision policy walk = none) :
    firstDecision policy false walk.options = none ∧ walk.truncation? = none := by
  rw [decision] at undecided
  split at undecided
  · simp at undecided
  · rename_i none
    exact ⟨none, by simpa using undecided⟩

theorem addedIdentity_eq_none {message : Bytes} (identity : Option Identity)
    (untyped : (optionWalk message).isDhcp = false) : addedIdentity message identity = none := by
  cases identity <;> simp [addedIdentity, untyped]

/-- The message after an undecided request was marked. -/
theorem message_of_decision_eq_none {message : Bytes} {policy : AgentPolicy}
    (circuit : UInt32) (identity : Option Identity) (cookie : hasCookie message = true)
    (undecided : decision policy (optionWalk message) = none) :
    (markRequest message policy circuit identity).message =
      match addedIdentity message identity with
      | some identity =>
          Bytes.padTo (message.take optionsStart ++ keptArea message ++
            AgentInfo.insertion circuit identity) minimumSize
      | none =>
          if (optionWalk message).agentOptions = [] then message
          else Bytes.padTo (message.take optionsStart ++ keptArea message ++ [endCode])
            minimumSize := by
  have base := trimOptions_withoutAgentInfo cookie
  simp only [markRequest, cookie, Bool.not_true, Bool.false_eq_true, ↓reduceIte, undecided]
  cases typed : (optionWalk message).isDhcp with
  | false => simp [addedIdentity_eq_none identity typed, Walk.agentOptions_eq_nil typed]
  | true =>
      simp only [↓reduceIte, replaceAgentInfo, addedIdentity, base, typed, Bool.true_and,
        List.isEmpty_iff]
      cases identity with
      | none => rfl
      | some identity =>
          simp only [Option.filter]
          split <;> rfl

/-- A request that is changed at all holds the kept area, then a byte that is not
zero with the relay's own option, if there is one. -/
theorem exists_mark_of_changed {message : Bytes} {policy : AgentPolicy} (circuit : UInt32)
    {identity : Option Identity} (cookie : hasCookie message = true)
    (undecided : decision policy (optionWalk message) = none)
    (changed : ¬ ((optionWalk message).agentOptions = [] ∧ addedIdentity message identity = none)) :
    ∃ mark rest, mark ≠ 0 ∧
      dhcp4.contents (mark :: rest) =
        ⟨identityOption circuit (addedIdentity message identity), false⟩ ∧
      (optionWalk (markRequest message policy circuit identity).message).contents =
        dhcp4.contents (keptArea message ++ mark :: rest) := by
  have size : (message.take optionsStart).length = optionsStart :=
    List.length_take_of_le (length_of_hasCookie cookie)
  rw [message_of_decision_eq_none circuit identity cookie undecided]
  cases added : addedIdentity message identity with
  | some own =>
      rcases optionWalk_padTo size
          (keptArea message ++ AgentInfo.insertion circuit own) minimumSize with ⟨count, filled⟩
      refine ⟨agentInfoCode.toUInt8,
        (AgentInfo.insertion circuit own).tail ++ List.replicate count 0, by decide,
        contents_insertion_append circuit own _, ?_⟩
      dsimp only
      rw [List.append_assoc] at filled ⊢
      exact filled
  | none =>
      have marked : (optionWalk message).agentOptions ≠ [] := fun none => changed ⟨none, added⟩
      rcases optionWalk_padTo size (keptArea message ++ [endCode]) minimumSize with ⟨count, filled⟩
      refine ⟨endCode, List.replicate count 0, by decide, contents_endCode_cons _, ?_⟩
      rw [List.append_assoc] at filled
      simp only [marked, ↓reduceIte]
      rw [List.append_assoc]
      exact filled

/-! ## The options afterwards -/

/-- A cursor over the options of a forwarded request yields those it came with,
less the agent options that were replaced, and the relay's own behind them,
exactly if nothing was taken out or put in, or the last of the options that stay
does not end in zero bytes. -/
theorem drain_markRequest_iff {message : Bytes} {policy : AgentPolicy} {circuit : UInt32}
    {identity : Option Identity} (cookie : hasCookie message = true)
    (forwarded : (markRequest message policy circuit identity).result = .ok .forward) :
    let received := optionWalk message
    let added := addedIdentity message identity
    let sent := Cursor.start .dhcp4
      ((markRequest message policy circuit identity).message.drop optionsStart)
    (received.agentOptions ≠ [] → policy = .replace) ∧
      (sent.drain.1.map (·.map Tlv.pair) =
          (received.otherOptions.map Tlv.pair ++ identityOption circuit added).map .ok ↔
        (received.agentOptions = [] ∧ added = none) ∨ received.EndsVisibly) := by
  have undecided := decision_of_forward cookie forwarded
  rcases of_decision_eq_none undecided with ⟨noDecision, complete⟩
  refine ⟨eq_replace_of_firstDecision noDecision, ?_⟩
  rw [Cursor.map_drain_start_iff]
  change (optionWalk _).contents = _ ↔ _
  by_cases unchanged :
      (optionWalk message).agentOptions = [] ∧ addedIdentity message identity = none
  · have same := message_of_decision_eq_none circuit identity cookie undecided
    simp only [unchanged.2, unchanged.1, ↓reduceIte] at same
    rw [same, unchanged.2, Walk.pairs_otherOptions unchanged.1]
    simp [Walk.contents, complete, identityOption, unchanged.1]
  · rcases exists_mark_of_changed circuit cookie undecided unchanged with
      ⟨mark, rest, visible, behind, equal⟩
    have typed : (optionWalk message).isDhcp = true := by
      by_contra untyped
      rw [Bool.not_eq_true] at untyped
      exact unchanged ⟨Walk.agentOptions_eq_nil untyped, addedIdentity_eq_none identity untyped⟩
    rw [equal, contents_keptArea_append_iff typed visible behind]
    exact (or_iff_right unchanged).symm

/-- A request with the agent option of another relay and a host name behind it. -/
def relayedRequest : Bytes :=
  compose ⟨requestOperation, 7, 0, .unspecified, .unspecified, .zero⟩
    [(53, [1]), (82, [1, 1, 9]), (12, [65])]

theorem drain_markRequest_relayedRequest :
    let identity : Identity := .ip ⟨10, 0, 0, 1⟩
    let marked := markRequest relayedRequest .replace 3 (some identity)
    hasCookie relayedRequest = true ∧ marked.result = .ok .forward ∧
      (Cursor.start .dhcp4 (marked.message.drop optionsStart)).drain.1.map (·.map Tlv.pair) =
        [.ok (53, [1]), .ok (12, [65]), .ok (82, AgentInfo.value 3 identity)] := by
  have cookie : hasCookie relayedRequest = true := by decide +kernel
  have forwarded : (markRequest relayedRequest .replace 3
      (some (.ip ⟨10, 0, 0, 1⟩))).result = .ok .forward := by decide +kernel
  have read := (drain_markRequest_iff cookie forwarded).2.2
    (.inr ⟨⟨0, 8, 11, 12, [65]⟩, 65, by decide +kernel, by decide, by decide⟩)
  have expected : (optionWalk relayedRequest).otherOptions.map Tlv.pair ++ identityOption 3
      (addedIdentity relayedRequest (some (.ip ⟨10, 0, 0, 1⟩))) =
      [(53, [1]), (12, [65]), (82, AgentInfo.value 3 (.ip ⟨10, 0, 0, 1⟩))] := by decide +kernel
  rw [expected] at read
  exact ⟨cookie, forwarded, read⟩

/-- A request whose host name ends in a zero byte. -/
def zeroTailRequest : Bytes :=
  compose ⟨requestOperation, 7, 0, .unspecified, .unspecified, .zero⟩
    [(53, [1]), (12, [65, 0])]

/-- The zero byte is lost, and the host name takes the code of the relay's option
for its own. -/
theorem drain_markRequest_zeroTailRequest :
    let identity : Identity := .ip ⟨10, 0, 0, 1⟩
    let received := optionWalk zeroTailRequest
    let marked := markRequest zeroTailRequest .replace 3 (some identity)
    let sent := Cursor.start .dhcp4 (marked.message.drop optionsStart)
    hasCookie zeroTailRequest = true ∧ received.truncation? = none ∧
      marked.result = .ok .forward ∧
      sent.drain.1.map (·.map Tlv.pair) = [.ok (53, [1]), .ok (12, [65, 82]), .ok (12, [4]),
        .ok (3, [4, 10]), .error (.truncated 19)] ∧
      sent.drain.1.map (·.map Tlv.pair) ≠ (received.otherOptions.map Tlv.pair ++
        identityOption 3 (addedIdentity zeroTailRequest (some identity))).map .ok := by
  decide +kernel

end Dhcp4

end DhcpRelay
