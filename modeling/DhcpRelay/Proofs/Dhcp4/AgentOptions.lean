import DhcpRelay.Dhcp4.Marking
import DhcpRelay.Proofs.OptionArea
import Mathlib.Data.List.TakeWhile

/-!
# Agent options and the others

The agent options behind the message type are taken out of a message, the others
stay.  `stripped` writes those that stay, each with the padding in front of it.
-/

namespace DhcpRelay

namespace Walk

open Dhcp4

/-- All options but the agent options behind the first message type option. -/
def otherOptions (walk : Walk) : List Tlv :=
  walk.options.takeWhile (·.code != messageTypeCode) ++
    (walk.options.dropWhile (·.code != messageTypeCode)).filter (·.code != agentInfoCode)

/-- A walk without a message type has no agent options that count. -/
theorem agentOptions_eq_nil {walk : Walk} (untyped : walk.isDhcp = false) :
    walk.agentOptions = [] := by
  have none : walk.options.dropWhile (·.code != messageTypeCode) = [] := by
    rw [List.dropWhile_eq_nil_iff]
    intro option member
    have other := List.any_eq_false.1 untyped option member
    simpa using other
  rw [Walk.agentOptions, none]
  rfl

theorem pairs_otherOptions {walk : Walk} (unmarked : walk.agentOptions = []) :
    walk.otherOptions.map Tlv.pair = walk.pairs := by
  have none := List.filter_eq_nil_iff.1 unmarked
  have kept : (walk.options.dropWhile (·.code != messageTypeCode)).filter
      (·.code != agentInfoCode) = walk.options.dropWhile (·.code != messageTypeCode) := by
    rw [List.filter_eq_self]
    intro option member
    simpa using none option member
  rw [Walk.otherOptions, kept, List.takeWhile_append_dropWhile]
  rfl

theorem otherOptions_ne_nil {walk : Walk} (typed : walk.isDhcp = true) :
    walk.otherOptions ≠ [] := by
  rcases List.any_eq_true.1 typed with ⟨option, member, isType⟩
  have type : option.code = messageTypeCode := beq_iff_eq.1 isType
  have notAgent : (option.code != agentInfoCode) = true := by
    rw [type]
    decide
  have split := List.takeWhile_append_dropWhile
    (p := fun option : Tlv => option.code != messageTypeCode) (l := walk.options)
  rw [← split, List.mem_append] at member
  have kept : option ∈ walk.otherOptions := by
    rw [Walk.otherOptions, List.mem_append]
    rcases member with before | behind
    · exact .inl before
    · exact .inr (List.mem_filter.2 ⟨behind, notAgent⟩)
  exact List.ne_nil_of_mem kept

theorem mem_options_of_mem_otherOptions {walk : Walk} {option : Tlv}
    (member : option ∈ walk.otherOptions) : option ∈ walk.options := by
  rcases List.mem_append.1 member with before | behind
  · exact (List.takeWhile_sublist _).mem before
  · exact (List.dropWhile_sublist _).mem (List.mem_filter.1 behind).1

end Walk

namespace Dhcp4

open Framing

/-! ## Taking agent options out -/

/-- Options that are taken apart. -/
structure Separated where
  /-- The agent options, which go. -/
  agents : List Tlv
  /-- The options that stay. -/
  others : List Tlv

/-- Take options apart as `stripped` does.  `typed` tells that a message type came before. -/
def separate (typed : Bool) : List Tlv → Separated
  | [] => ⟨[], []⟩
  | option :: rest =>
      let parts := separate (typed || option.code == messageTypeCode) rest
      if typed && option.code == agentInfoCode then
        { parts with agents := option :: parts.agents }
      else
        { parts with others := option :: parts.others }

section

variable {typed : Bool} {option : Tlv} {rest options : List Tlv}

theorem separate_cons_of_agent (agent : (typed && option.code == agentInfoCode) = true) :
    let parts := separate (typed || option.code == messageTypeCode) rest
    separate typed (option :: rest) = ⟨option :: parts.agents, parts.others⟩ :=
  if_pos agent

theorem separate_cons_of_other (other : ¬ (typed && option.code == agentInfoCode) = true) :
    let parts := separate (typed || option.code == messageTypeCode) rest
    separate typed (option :: rest) = ⟨parts.agents, option :: parts.others⟩ :=
  if_neg other

/-- Behind a message type all agent options go. -/
theorem separate_true (options : List Tlv) :
    separate true options =
      ⟨options.filter (·.code == agentInfoCode), options.filter (·.code != agentInfoCode)⟩ := by
  induction options with
  | nil => rfl
  | cons option rest ih =>
      by_cases agent : option.code = agentInfoCode
      · simp [separate, agent, ih]
      · simp [separate, agent, ih]

theorem separate_options (walk : Walk) :
    (separate false walk.options).agents = walk.agentOptions ∧
      (separate false walk.options).others = walk.otherOptions := by
  rcases walk with ⟨options, ending⟩
  simp only [Walk.agentOptions, Walk.otherOptions]
  induction options with
  | nil => exact ⟨rfl, rfl⟩
  | cons option rest ih =>
      by_cases type : option.code = messageTypeCode
      · have differ : messageTypeCode ≠ agentInfoCode := by decide
        simp [separate, type, separate_true, differ]
      · have other : (option.code == messageTypeCode) = false := beq_false_of_ne type
        simp [separate, type, other, ih]

theorem mem_of_mem_agents (member : option ∈ (separate typed options).agents) :
    option ∈ options := by
  induction options generalizing typed with
  | nil => cases member
  | cons first rest ih =>
      by_cases agent : (typed && first.code == agentInfoCode) = true
      · rw [separate_cons_of_agent agent] at member
        rcases List.mem_cons.1 member with rfl | later
        · exact List.mem_cons_self
        · exact List.mem_cons_of_mem first (ih later)
      · rw [separate_cons_of_other agent] at member
        exact List.mem_cons_of_mem first (ih member)

theorem stripped_of_others_nil (none : (separate typed options).others = []) :
    ∃ count, stripped typed options = List.replicate count 0 := by
  induction options generalizing typed with
  | nil => exact ⟨0, rfl⟩
  | cons option rest ih =>
      by_cases agent : (typed && option.code == agentInfoCode) = true
      · rw [separate_cons_of_agent agent] at none
        rcases ih none with ⟨count, equal⟩
        refine ⟨option.padding + count, ?_⟩
        rw [stripped, if_pos agent, equal, List.append_nil, ← List.replicate_append_replicate]
        rfl
      · rw [separate_cons_of_other agent] at none
        exact absurd none (List.cons_ne_nil _ _)

/-- What is left of the options: everything up to the last option that is kept,
that option, and padding. -/
theorem stripped_of_others_append {before : List Tlv} {last : Tlv}
    (fits : ∀ option ∈ options, Fits4 option)
    (kept : (separate typed options).others = before ++ [last]) :
    ∃ front count,
      stripped typed options =
        front ++ (Tlv.encode4 last.code.toUInt8 last.value ++ List.replicate count 0) ∧
      ∀ area, dhcp4.contents (front ++ area) =
        (dhcp4.contents area).prepend (before.map Tlv.pair) := by
  induction options generalizing typed before with
  | nil => simp [separate] at kept
  | cons option rest ih =>
      have restFits : ∀ option ∈ rest, Fits4 option :=
        fun found member => fits found (List.mem_cons_of_mem option member)
      by_cases agent : (typed && option.code == agentInfoCode) = true
      · rw [separate_cons_of_agent agent] at kept
        rcases ih restFits kept with ⟨front, count, equal, contents⟩
        refine ⟨List.replicate option.padding padCode ++ front, count, ?_, ?_⟩
        · rw [stripped, if_pos agent, equal]
          simp
        · intro area
          rw [List.append_assoc, contents_replicate_append, contents]
      · rw [separate_cons_of_other agent] at kept
        rcases fits option List.mem_cons_self with ⟨isCode, code, short⟩
        cases before with
        | nil =>
            simp only [List.nil_append, List.cons.injEq] at kept
            rcases kept with ⟨rfl, none⟩
            rcases stripped_of_others_nil none with ⟨count, equal⟩
            refine ⟨List.replicate option.padding padCode, count, ?_, ?_⟩
            · rw [stripped, if_neg agent, equal, List.append_assoc]
            · intro area
              exact contents_replicate_append _ area
        | cons first before =>
            simp only [List.cons_append, List.cons.injEq] at kept
            rcases kept with ⟨rfl, kept⟩
            rcases ih restFits kept with ⟨front, count, equal, contents⟩
            refine ⟨List.replicate option.padding padCode ++
              (Tlv.encode4 option.code.toUInt8 option.value ++ front), count, ?_, ?_⟩
            · rw [stripped, if_neg agent, equal]
              simp
            · intro area
              rw [List.append_assoc, contents_replicate_append, List.append_assoc,
                contents_encode4_append isCode short, contents, code]
              simp [Tlv.pair]

end

/-! ## The option area of a message -/

theorem length_of_hasCookie {message : Bytes} (cookie : hasCookie message = true) :
    optionsStart ≤ message.length := by
  have equal := congrArg List.length (beq_iff_eq.1 cookie)
  simp only [Bytes.slice, List.length_take, List.length_drop, magicCookie, headerSize,
    List.length_cons, List.length_nil] at equal
  simp only [optionsStart] at equal ⊢
  omega

theorem optionWalk_append {front area : Bytes} (size : front.length = optionsStart) :
    (optionWalk (front ++ area)).contents = dhcp4.contents area := by
  rw [optionWalk, List.drop_left' size, contents]

theorem fits4_of_mem_optionWalk {message : Bytes} :
    ∀ option ∈ (optionWalk message).options, Fits4 option :=
  fun _ member => fits4_of_mem_walkFrom member

/-- Zero bytes that fill a message up stand behind its options. -/
theorem optionWalk_padTo {front : Bytes} (size : front.length = optionsStart) (area : Bytes)
    (minimum : Nat) :
    ∃ count, (optionWalk (Bytes.padTo (front ++ area) minimum)).contents =
      dhcp4.contents (area ++ List.replicate count 0) := by
  refine ⟨minimum - (front ++ area).length, ?_⟩
  rw [Bytes.padTo, List.append_assoc]
  exact optionWalk_append size

end Dhcp4

end DhcpRelay
