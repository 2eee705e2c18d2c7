import DhcpRelay.Proofs.Dhcp4.AgentVerdict
import DhcpRelay.Proofs.Dhcp4.RequestOptions
import DhcpRelay.Proofs.Guarded.Message
import DhcpRelay.Proofs.OptionLayout

/-!
# Agent information with guards

Marking and unmarking copy the options in parts: everything up to an agent option that
is taken out, then on from behind it.  A part never ends before it starts, as the options
stand one behind the other.
-/

namespace DhcpRelay.Guarded

open Dhcp4

/-! ## The option itself -/

/-- The sub-options of a value from `position` on. -/
def subOptions (value : Bytes) (position : Nat) : Guard (Option (List (UInt8 × Bytes))) :=
  if _left : value.length ≤ position then
    .ok (some [])
  else if value.length < position + 2 then
    .ok none
  else do
    let tag ← byte value position
    let length ← byte value (position + 1)
    let start := position + 2
    let stop := start + length.toNat
    if value.length < stop then
      .ok none
    else if tag = AgentInfo.circuitTag ∨ tag = AgentInfo.identityTag then do
      let part ← slice value start stop
      let later ← subOptions value stop
      return later.map ((tag, part) :: ·)
    else
      .ok none
termination_by value.length - position

/-- Judge the value of an option by this relay's identity. -/
def judge (value : Bytes) (kind : IdentityKind) (links : Topology) :
    Guard AgentInfo.Verdict := do
  match ← subOptions value 0 with
  | none => return .invalid
  | some found =>
      match (AgentInfo.lastValue AgentInfo.circuitTag found).bind AgentInfo.circuitOf?,
          AgentInfo.lastValue AgentInfo.identityTag found with
      | some circuit, some identity =>
          return AgentInfo.judgeIdentity kind links circuit identity
      | _, _ => return .mismatch

/-- The size of the whole option.  Its length has to fit a byte. -/
def optionSize (kind : IdentityKind) : Guard Nat := do
  let size := AgentInfo.optionSize kind
  require ((← subtract size 2) ≤ 255)
  return size

/-- The option and the end marker behind it. -/
def insertion (circuit : UInt32) (identity : Identity) : Guard Bytes := do
  let length ← subtract (← optionSize identity.kind) 2
  return agentInfoCode.toUInt8 :: UInt8.ofNat length :: AgentInfo.value circuit identity ++
    [endCode]

/-! ## Copying -/

/-- What was copied of an area: everything that is kept in front of `position`. -/
structure Copied where
  position : Nat
  bytes : Bytes

/-- Copy on until an agent option behind a message type, and go on behind it.  `typed`
tells that a message type came before. -/
def Copied.pastAgents (area : Bytes) (typed : Bool) (copied : Copied) :
    List Tlv → Guard Copied
  | [] => .ok copied
  | option :: rest =>
      if typed && option.code == agentInfoCode then do
        let part ← slice area copied.position option.offset
        pastAgents area typed ⟨option.stop, copied.bytes ++ part⟩ rest
      else
        pastAgents area (typed || option.code == messageTypeCode) copied rest

/-- Everything that was copied, with the last part up to `stop`. -/
def Copied.upTo (area : Bytes) (stop : Nat) (copied : Copied) : Guard Bytes := do
  return copied.bytes ++ (← slice area copied.position stop)

/-! ## Requests and replies -/

/-- Put agent information into a request of which `kept` is left. -/
def replaceAgentInfo (message kept : Bytes) (walk : Walk) (circuit : UInt32)
    (identity : Option Identity) : Guard Bytes := do
  let base := trimOptions kept
  let unmarked :=
    if walk.agentOptions.isEmpty then message
    else (base ++ [endCode]).padTo minimumSize
  match identity with
  | none => return unmarked
  | some identity =>
      let size ← optionSize identity.kind
      if fits walk.maximumSize (base.length + size + 1) then
        return (base ++ (← insertion circuit identity)).padTo minimumSize
      else
        return unmarked

/-- Handle the agent information of a request.  What the options decide does not depend
on what is copied, so all is copied first. -/
def markRequest (message : Bytes) (policy : AgentPolicy) (circuit : UInt32)
    (identity : Option Identity) : Guard (Edited (Except MessageFault RequestFate)) := do
  if !hasCookie message then
    return ⟨.ok .forward, message⟩
  else
    let area ← behind message optionsStart
    let header ← slice message 0 optionsStart
    let _room ← optionSize .mac
    let walk ← walk4 area 0 0
    let copied ← Copied.pastAgents area false ⟨0, header⟩ walk.options
    match decision policy walk with
    | some decision => return ⟨decision, message⟩
    | none =>
        if walk.isDhcp then
          let kept ← copied.upTo area (walk.ending.stop area)
          return ⟨.ok .forward, ← replaceAgentInfo message kept walk circuit identity⟩
        else
          return ⟨.ok .forward, message⟩

/-- Take the agent information out of a reply and check it. -/
def unmarkReply (message : Bytes) (validation : Bool) (kind : IdentityKind)
    (links : Topology) : Guard (Edited ReplyFate) := do
  if !hasCookie message then
    return ⟨.forward, message⟩
  else
    let area ← behind message optionsStart
    let header ← slice message 0 optionsStart
    let walk ← walk4 area 0 0
    let verdicts ← walk.agentOptions.mapM (judge ·.value kind links)
    let copied ← Copied.pastAgents area false ⟨0, header⟩ walk.options
    if walk.truncation?.isSome || verdicts.any (· == .invalid) then
      return ⟨.dropInvalid, message⟩
    else if !walk.isDhcp then
      return ⟨.forward, message⟩
    else if validation && verdicts.all (· == .mismatch) then
      return ⟨.dropUnvalidated, message⟩
    else if verdicts.isEmpty then
      return ⟨.forward, message⟩
    else
      let kept ← copied.upTo area (walk.ending.stop area)
      return ⟨.forward, (kept ++ [endCode]).padTo minimumSize⟩

/-! ## The guards hold -/

theorem subOptions_drop_eq (value : Bytes) (position : Nat) :
    subOptions value position = .ok (AgentInfo.subOptions (value.drop position)) := by
  fun_induction subOptions value position with
  | case1 position left =>
      rw [List.drop_eq_nil_of_le left, AgentInfo.subOptions]
  | case2 position remains short =>
      have single : value.drop (position + 1) = [] := List.drop_eq_nil_of_le (by omega)
      rw [drop_eq_cons (by omega), single, AgentInfo.subOptions]
  | case3 position remains header ih =>
      have room : position + 2 ≤ value.length := Nat.not_lt.1 header
      rw [byte_eq (by omega), ok_bind, byte_eq (by omega), ok_bind, drop_eq_cons (by omega),
        drop_eq_cons (by omega)]
      generalize value.byteAt position = tag
      generalize value.byteAt (position + 1) = length at ih ⊢
      have split := Bytes.splitExactly_drop room length.toNat
      by_cases large : value.length < position + 2 + length.toNat
      · rw [if_pos large] at split
        rw [if_pos large, AgentInfo.subOptions_of_none split]
      · rw [if_neg large] at split
        rw [if_neg large, AgentInfo.subOptions_of_some split, slice_eq (Nat.le_add_right _ _)
          (Nat.not_lt.1 large), ok_bind, ih length large, ok_bind]
        split <;> rfl

theorem judge_eq (value : Bytes) (kind : IdentityKind) (links : Topology) :
    judge value kind links = .ok (AgentInfo.judge value kind links) := by
  rw [judge, subOptions_drop_eq, ok_bind, AgentInfo.judge, List.drop_zero]
  cases AgentInfo.subOptions value with
  | none => rfl
  | some found =>
      dsimp only
      split <;> simp_all

theorem optionSize_eq (kind : IdentityKind) :
    optionSize kind = .ok (AgentInfo.optionSize kind) := by
  cases kind <;> rfl

theorem insertion_eq (circuit : UInt32) (identity : Identity) :
    insertion circuit identity = .ok (AgentInfo.insertion circuit identity) := by
  have size := AgentInfo.length_value circuit identity
  have enough : 2 ≤ AgentInfo.optionSize identity.kind := size ▸ Nat.le_add_left _ _
  rw [insertion, optionSize_eq, ok_bind, subtract_eq enough, ok_bind, ← size,
    Nat.add_sub_cancel]
  rfl

/-- A part that starts where options stand, or before them, never ends before it starts.
In the end everything is copied except the agent options. -/
theorem Copied.exists_pastAgents {area : Bytes} {position stop : Nat} {options : List Tlv}
    (laid : LaidOut area position options stop) (typed : Bool) (copied : Copied)
    (behind : copied.position ≤ position) :
    ∃ last, copied.pastAgents area typed options = .ok last ∧ last.position ≤ stop ∧
      last.bytes ++ area.slice last.position stop =
        copied.bytes ++ area.slice copied.position position ++ stripped typed options := by
  induction laid generalizing typed copied with
  | nil => exact ⟨copied, rfl, behind, by rw [stripped, List.append_nil]⟩
  | @cons position stop option rest stands laid ih =>
      have start : position ≤ option.offset := stands.offset ▸ Nat.le_add_right _ _
      have part : area.slice copied.position option.offset =
          area.slice copied.position position ++ List.replicate option.padding padCode := by
        rw [← Bytes.slice_append behind start, stands.padding]
      rw [pastAgents, stripped]
      by_cases agent : (typed && option.code == agentInfoCode) = true
      · -- What stands in front is copied, and copying goes on behind the option.
        have fits : option.offset ≤ area.length := Nat.le_trans stands.ordered stands.within
        have isTyped : typed = true := (Bool.and_eq_true_iff.1 agent).1
        rw [if_pos agent, if_pos agent, slice_eq (Nat.le_trans behind start) fits, ok_bind, part]
        rcases ih typed ⟨option.stop, _⟩ (Nat.le_refl option.stop) with
          ⟨last, done, ordered, bytes⟩
        refine ⟨last, done, ordered, ?_⟩
        rw [bytes, Bytes.slice_self, isTyped]
        simp
      · -- Nothing is copied yet: the part that is still to copy grows by the option.
        have whole : area.slice copied.position option.stop =
            area.slice copied.position position ++ (List.replicate option.padding padCode ++
              Tlv.encode4 option.code.toUInt8 option.value) := by
          rw [← Bytes.slice_append (Nat.le_trans behind start) stands.ordered, part,
            stands.written, List.append_assoc]
        rw [if_neg agent, if_neg agent]
        rcases ih (typed || option.code == messageTypeCode) copied
          (Nat.le_trans behind (Nat.le_trans start stands.ordered)) with
          ⟨last, done, ordered, bytes⟩
        refine ⟨last, done, ordered, ?_⟩
        rw [bytes, whole]
        simp

/-- The parts of a complete message are all within its option area. -/
theorem exists_copied (message : Bytes) :
    ∃ copied, Copied.pastAgents (message.drop optionsStart) false ⟨0, message.take optionsStart⟩
        (optionWalk message).options = .ok copied ∧
      ((optionWalk message).truncation? = none →
        copied.upTo (message.drop optionsStart)
          ((optionWalk message).ending.stop (message.drop optionsStart)) =
            .ok (withoutAgentInfo message (optionWalk message))) := by
  have stands : ∃ stop, LaidOut (message.drop optionsStart) 0 (optionWalk message).options stop ∧
      ((optionWalk message).truncation? = none →
        (optionWalk message).ending.StandsAt (message.drop optionsStart) stop) :=
    Framing.exists_laidOut (Nat.zero_le _)
  rcases stands with ⟨stop, laid, ends⟩
  rcases Copied.exists_pastAgents laid false ⟨0, message.take optionsStart⟩ (Nat.le_refl 0) with
    ⟨copied, done, ordered, bytes⟩
  refine ⟨copied, done, fun complete => ?_⟩
  have padded := ends complete
  rw [Copied.upTo, slice_eq (Nat.le_trans ordered padded.ordered) padded.within, ok_bind,
    ← Bytes.slice_append ordered padded.ordered, padded.padding, ← List.append_assoc, bytes,
    Bytes.slice_self, List.append_nil]
  rfl

theorem replaceAgentInfo_eq (message : Bytes) (walk : Walk) (circuit : UInt32)
    (identity : Option Identity) :
    replaceAgentInfo message (withoutAgentInfo message walk) walk circuit identity =
      .ok (Dhcp4.replaceAgentInfo message walk circuit identity) := by
  cases identity with
  | none => rfl
  | some identity =>
      simp only [replaceAgentInfo, Dhcp4.replaceAgentInfo, optionSize_eq, insertion_eq, ok_bind,
        pure_eq]
      split <;> rfl

theorem markRequest_eq (message : Bytes) (policy : AgentPolicy) (circuit : UInt32)
    (identity : Option Identity) :
    markRequest message policy circuit identity =
      .ok (Dhcp4.markRequest message policy circuit identity) := by
  rw [markRequest, Dhcp4.markRequest]
  cases cookie : hasCookie message with
  | false => rfl
  | true =>
      have size := length_of_hasCookie cookie
      have header : slice message 0 optionsStart = .ok (message.take optionsStart) :=
        slice_eq (Nat.zero_le _) size
      have walked : walk4 (message.drop optionsStart) 0 0 = .ok (optionWalk message) := walk4_eq _
      rcases exists_copied message with ⟨copied, done, last⟩
      simp only [Bool.not_true, Bool.false_eq_true, if_false]
      rw [behind_eq size, ok_bind, header, ok_bind, optionSize_eq, ok_bind, walked, ok_bind, done,
        ok_bind]
      cases decided : decision policy (optionWalk message) with
      | some decision => rfl
      | none =>
          dsimp only
          cases (optionWalk message).isDhcp with
          | false => rfl
          | true =>
              rw [if_pos rfl, if_pos rfl, last (of_decision_eq_none decided).2, ok_bind,
                replaceAgentInfo_eq]
              rfl

theorem unmarkReply_eq (message : Bytes) (validation : Bool) (kind : IdentityKind)
    (links : Topology) :
    unmarkReply message validation kind links =
      .ok (Dhcp4.unmarkReply message validation kind links) := by
  rw [unmarkReply, Dhcp4.unmarkReply]
  cases cookie : hasCookie message with
  | false => rfl
  | true =>
      have size := length_of_hasCookie cookie
      have header : slice message 0 optionsStart = .ok (message.take optionsStart) :=
        slice_eq (Nat.zero_le _) size
      have walked : walk4 (message.drop optionsStart) 0 0 = .ok (optionWalk message) := walk4_eq _
      have judged : (fun option : Tlv => judge option.value kind links) =
          fun option => pure (AgentInfo.judge option.value kind links) :=
        funext fun option => judge_eq option.value kind links
      rcases exists_copied message with ⟨copied, done, last⟩
      simp only [Bool.not_true, Bool.false_eq_true, if_false]
      rw [behind_eq size, ok_bind, header, ok_bind, walked, ok_bind, judged, List.mapM_pure,
        pure_eq, ok_bind, done, ok_bind]
      cases cut : (optionWalk message).truncation? with
      | some offset => rfl
      | none =>
          rw [last cut, ok_bind]
          split
          · rfl
          split
          · rfl
          split
          · rfl
          split <;> rfl

end DhcpRelay.Guarded
