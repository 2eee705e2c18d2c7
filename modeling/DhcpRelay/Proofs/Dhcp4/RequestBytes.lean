import DhcpRelay.Proofs.Dhcp4.AgentRanges
import DhcpRelay.Proofs.Dhcp4.RequestOptions

/-!
# The bytes of marked requests

Marking copies a request byte by byte: the header, then the options up to their end without
the bytes of agent options, and without the zero bytes that are last then.  Behind that comes
the relay's own option if it fits, and zero bytes up to the least size.
-/

namespace DhcpRelay

namespace Walk

open Dhcp4

variable {walk : Walk} {size : Nat}

/-- A request with these options may grow to a size: below what relays send, and to no more
than its last maximum size option allows, unless that one is not taken seriously. -/
def MayHave (walk : Walk) (size : Nat) : Prop :=
  size < sizeLimit ∧
    ∀ option, (walk.options.filter (·.code == maximumSizeCode)).getLast? = some option →
      smallestMaximum ≤ Bytes.number option.value → size ≤ Bytes.number option.value

theorem fits_iff_mayHave : fits walk.maximumSize size = true ↔ walk.MayHave size := by
  rw [fits, MayHave, maximumSize, Bool.and_eq_true, decide_eq_true_eq]
  apply and_congr_right
  intro _
  cases last : (walk.options.filter (·.code == maximumSizeCode)).getLast? with
  | none => simp
  | some option =>
      by_cases small : Bytes.number option.value < smallestMaximum
      · simp [small, Nat.not_le.2 small]
      · simp [small, Nat.not_lt.1 small]

end Walk

namespace Dhcp4

variable {message : Bytes} {policy : AgentPolicy} {circuit : UInt32} {identity : Option Identity}

/-- The bytes of a request that marking keeps. -/
def keptBytes (message : Bytes) : Bytes :=
  let area : Bytes := message.drop optionsStart
  let walk := optionWalk message
  message.take optionsStart ++
    Bytes.trimZeros (Bytes.without (area.take (walk.ending.stop area)) walk.agentOptions)

theorem keptBytes_eq (complete : (optionWalk message).truncation? = none) :
    keptBytes message = message.take optionsStart ++ keptArea message := by
  have zeros : List.replicate (optionWalk message).ending.padding padCode =
      List.replicate (optionWalk message).ending.padding 0 := rfl
  rw [keptBytes, without_agentOptions complete, zeros, Bytes.trimZeros_append_replicate, keptArea]

/-- The relay's own option goes into DHCP requests that may have the size they get by it. -/
theorem addedIdentity_eq_some_iff (cookie : hasCookie message = true)
    (complete : (optionWalk message).truncation? = none) {own : Identity} (circuit : UInt32) :
    addedIdentity message identity = some own ↔ identity = some own ∧
      (optionWalk message).isDhcp = true ∧
      (optionWalk message).MayHave (keptBytes message ++ AgentInfo.insertion circuit own).length := by
  have size : (keptBytes message ++ AgentInfo.insertion circuit own).length =
      (trimOptions (withoutAgentInfo message (optionWalk message))).length +
        AgentInfo.optionSize own.kind + 1 := by
    rw [trimOptions_withoutAgentInfo cookie, ← keptBytes_eq complete, List.length_append,
      AgentInfo.length_insertion, Nat.add_assoc]
  rw [addedIdentity, Option.filter_eq_some_iff, Bool.and_eq_true, Walk.fits_iff_mayHave, size]

/-- A forwarded request is the one that came in, if it has no message type, or no agent
options and none is added.  Any other is what was kept of it, with the relay's own option or
else the end marker behind, filled up with zero bytes.  The option is added if the relay knows
its identity and the request may have the size that it gets by it. -/
theorem bytes_of_markRequest (cookie : hasCookie message = true)
    (forwarded : (markRequest message policy circuit identity).result = .ok .forward) :
    let received := optionWalk message
    let sent := (markRequest message policy circuit identity).message
    let marked (own : Identity) := keptBytes message ++ AgentInfo.insertion circuit own
    (received.isDhcp = false → sent = message) ∧
      (received.isDhcp = true →
        (∀ own, identity = some own → received.MayHave (marked own).length →
          sent = (marked own).padTo minimumSize) ∧
        ((∀ own, identity = some own → ¬ received.MayHave (marked own).length) →
          sent = if received.agentOptions = [] then message
            else (keptBytes message ++ [endCode]).padTo minimumSize)) := by
  intro received sent marked
  have undecided := decision_of_forward cookie forwarded
  have complete := (of_decision_eq_none undecided).2
  have kept := keptBytes_eq complete
  have comes : sent = _ := message_of_decision_eq_none circuit identity cookie undecided
  rw [← kept] at comes
  have added (own : Identity) : addedIdentity message identity = some own ↔ _ :=
    addedIdentity_eq_some_iff cookie complete circuit
  refine ⟨?_, ?_⟩
  · intro untyped
    rw [comes, addedIdentity_eq_none identity untyped]
    exact if_pos (Walk.agentOptions_eq_nil untyped)
  · intro typed
    refine ⟨?_, ?_⟩
    · intro own known takes
      rw [comes, (added own).2 ⟨known, typed, takes⟩]
    · intro large
      have none : addedIdentity message identity = none := by
        rw [Option.eq_none_iff_forall_ne_some]
        intro own found
        rcases (added own).1 found with ⟨known, _, takes⟩
        exact large own known takes
      rw [comes, none]

/-- A request from behind another relay, for a client that takes the least maximum size.
Zero bytes stand in front of the end marker. -/
def sizedRequest : Bytes :=
  (compose ⟨requestOperation, 7, 0, .unspecified, .unspecified, .zero⟩ []).take optionsStart ++
    [53, 1, 1, 57, 2, 2, 64, 0, 82, 3, 1, 1, 9, 12, 1, 65, 0, 0, endCode, 12, 1, 66]

/-- The option of the other relay goes and the padding in front of it stays. -/
theorem bytes_of_markRequest_sizedRequest :
    let own : Identity := .ip ⟨10, 0, 0, 1⟩
    let edited := markRequest sizedRequest .replace 3 (some own)
    hasCookie sizedRequest = true ∧ edited.result = .ok .forward ∧
      edited.message = (keptBytes sizedRequest ++ AgentInfo.insertion 3 own).padTo minimumSize ∧
      keptBytes sizedRequest = sizedRequest.take optionsStart ++
        [53, 1, 1, 57, 2, 2, 64, 0, 12, 1, 65] := by
  intro own edited
  have cookie : hasCookie sizedRequest = true := by decide +kernel
  have forwarded : edited.result = .ok .forward := by decide +kernel
  have typed : (optionWalk sizedRequest).isDhcp = true := by decide +kernel
  have fits : (optionWalk sizedRequest).MayHave
      (keptBytes sizedRequest ++ AgentInfo.insertion 3 own).length := by
    rw [← Walk.fits_iff_mayHave]
    decide +kernel
  have kept : keptBytes sizedRequest = sizedRequest.take optionsStart ++
      [53, 1, 1, 57, 2, 2, 64, 0, 12, 1, 65] := by decide +kernel
  exact ⟨cookie, forwarded, ((bytes_of_markRequest cookie forwarded).2 typed).1 own rfl fits, kept⟩

end Dhcp4

end DhcpRelay
