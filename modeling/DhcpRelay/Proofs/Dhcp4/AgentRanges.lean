import DhcpRelay.Proofs.Bytes
import DhcpRelay.Proofs.Dhcp4.AgentOptions
import DhcpRelay.Proofs.OptionLayout

/-!
# Where agent options stand

`stripped` writes the options that stay one after the other.  It comes to the same to copy
the option area and to leave out the bytes in which the agent options stand, each from its
code to the end of its value.  So what is written fits into the area, with room to spare for
each option that is left out.
-/

namespace DhcpRelay

/-- The byte at `position` of an area is one of the bytes of an option. -/
def Tlv.Covers (option : Tlv) (position : Nat) : Prop :=
  option.offset ≤ position ∧ position < option.stop

instance (option : Tlv) (position : Nat) : Decidable (option.Covers position) :=
  inferInstanceAs (Decidable (_ ∧ _))

namespace Bytes

variable {bytes : Bytes} {start : Nat} {option : Tlv} {options : List Tlv}

/-- The bytes that belong to none of some options.  The first of the bytes stands at `start`
of the area that holds the options. -/
def withoutFrom (start : Nat) (options : List Tlv) (bytes : Bytes) : Bytes :=
  ((bytes.zipIdx start).filter fun entry => ∀ option ∈ options, ¬ option.Covers entry.2).map
    Prod.fst

/-- An option area without the bytes of some of its options. -/
def without (area : Bytes) (options : List Tlv) : Bytes :=
  withoutFrom 0 options area

theorem withoutFrom_append (start : Nat) (options : List Tlv) (front back : Bytes) :
    withoutFrom start options (front ++ back) =
      withoutFrom start options front ++ withoutFrom (start + front.length) options back := by
  simp [withoutFrom, List.zipIdx_append]

/-- Bytes in front of all options stay. -/
theorem withoutFrom_of_before
    (before : ∀ option ∈ options, start + bytes.length ≤ option.offset) :
    withoutFrom start options bytes = bytes := by
  have all : (bytes.zipIdx start).filter
      (fun entry => ∀ option ∈ options, ¬ option.Covers entry.2) = bytes.zipIdx start := by
    rw [List.filter_eq_self]
    intro entry member
    rw [decide_eq_true_eq]
    intro option among covers
    have inside := List.snd_lt_of_mem_zipIdx member
    have behind := before option among
    have reached := covers.1
    omega
  rw [withoutFrom, all, List.zipIdx_map_fst]

/-- The bytes of one of the options go. -/
theorem withoutFrom_of_covered (among : option ∈ options) (first : option.offset ≤ start)
    (last : start + bytes.length ≤ option.stop) : withoutFrom start options bytes = [] := by
  have none : (bytes.zipIdx start).filter
      (fun entry => ∀ option ∈ options, ¬ option.Covers entry.2) = [] := by
    rw [List.filter_eq_nil_iff]
    intro entry member
    rw [decide_eq_true_eq]
    intro outside
    have behind := List.le_snd_of_mem_zipIdx member
    have inside := List.snd_lt_of_mem_zipIdx member
    exact outside option among ⟨by omega, by omega⟩
  rw [withoutFrom, none, List.map_nil]

/-- An option that stands in front of the bytes takes none of them. -/
theorem withoutFrom_cons_of_behind (behind : option.stop ≤ start) :
    withoutFrom start (option :: options) bytes = withoutFrom start options bytes := by
  have same : (bytes.zipIdx start).filter
        (fun entry => ∀ found ∈ option :: options, ¬ found.Covers entry.2) =
      (bytes.zipIdx start).filter
        (fun entry => ∀ found ∈ options, ¬ found.Covers entry.2) := by
    apply List.filter_congr
    intro entry member
    have reached := List.le_snd_of_mem_zipIdx member
    have outside : ¬ option.Covers entry.2 := fun covers => by
      have inside := covers.2
      omega
    simp [outside]
  rw [withoutFrom, same, withoutFrom]

/-- So do bytes behind all options. -/
theorem withoutFrom_of_behind (behind : ∀ option ∈ options, option.stop ≤ start) :
    withoutFrom start options bytes = bytes := by
  induction options with
  | nil => exact withoutFrom_of_before (by simp)
  | cons option rest ih =>
      rw [withoutFrom_cons_of_behind (behind option List.mem_cons_self)]
      exact ih fun found member => behind found (List.mem_cons_of_mem option member)

end Bytes

namespace Dhcp4

/-- What is written of options that stand one behind the other is what is copied of them. -/
theorem withoutFrom_agents {area : Bytes} {position stop : Nat} {options : List Tlv}
    (laid : LaidOut area position options stop) (typed : Bool) :
    (area.slice position stop).withoutFrom position (separate typed options).agents =
      stripped typed options := by
  induction laid generalizing typed with
  | nil => simp [Bytes.withoutFrom, stripped]
  | @cons position stop option rest stands laid ih =>
      have start : position ≤ option.offset := stands.offset ▸ Nat.le_add_right _ _
      have bounds := laid.ordered stands.within
      have behind : ∀ typed, ∀ found ∈ (separate typed rest).agents,
          option.stop ≤ found.offset := by
        intro typed found member
        exact laid.le_offset found (mem_of_mem_agents member)
      have parts : area.slice position stop = List.replicate option.padding padCode ++
          (Tlv.encode4 option.code.toUInt8 option.value ++ area.slice option.stop stop) := by
        rw [← stands.padding, ← stands.written, Bytes.slice_append stands.ordered bounds.1,
          Bytes.slice_append start (Nat.le_trans stands.ordered bounds.1)]
      have padded : position + (List.replicate option.padding padCode).length = option.offset := by
        rw [List.length_replicate, stands.offset]
      have size := stands.offset_add_length
      rw [parts, Bytes.withoutFrom_append, Bytes.withoutFrom_append, padded, size, stripped]
      by_cases agent : (typed && option.code == agentInfoCode) = true
      · -- The bytes of the option go.  In front of it there is nothing else to leave out.
        rw [separate_cons_of_agent agent, if_pos agent,
          Bytes.withoutFrom_cons_of_behind (Nat.le_refl _), ih,
          Bytes.withoutFrom_of_covered List.mem_cons_self (Nat.le_refl _) (Nat.le_of_eq size),
          Bytes.withoutFrom_of_before, List.append_assoc]
        intro found member
        rw [padded]
        rcases List.mem_cons.1 member with rfl | later
        · exact Nat.le_refl _
        · exact Nat.le_trans stands.ordered (behind _ found later)
      · -- The option stays, as all that is left out stands behind it.
        rw [separate_cons_of_other agent, if_neg agent, ih, Bytes.withoutFrom_of_before,
          Bytes.withoutFrom_of_before, List.append_assoc]
        · intro found member
          rw [size]
          exact behind _ found member
        · intro found member
          rw [padded]
          exact Nat.le_trans stands.ordered (behind _ found member)

/-- Each option that goes leaves room for its code and its length. -/
theorem length_stripped_le {area : Bytes} {position stop : Nat} {options : List Tlv}
    (laid : LaidOut area position options stop) (typed : Bool) :
    position + (stripped typed options).length + 2 * (separate typed options).agents.length ≤
      stop := by
  induction laid generalizing typed with
  | nil => simp [stripped, separate]
  | @cons position stop option rest stands laid ih =>
      have start := stands.offset
      have size := stands.offset_add_length
      have later := ih (typed || option.code == messageTypeCode)
      rw [stripped]
      by_cases agent : (typed && option.code == agentInfoCode) = true
      · rw [separate_cons_of_agent agent, if_pos agent, List.append_nil, List.length_append,
          List.length_replicate, List.length_cons]
        have header : 2 ≤ (Tlv.encode4 option.code.toUInt8 option.value).length := by
          simp [Tlv.encode4]
        omega
      · rw [separate_cons_of_other agent, if_neg agent, List.length_append, List.length_append,
          List.length_replicate]
        dsimp only
        omega

theorem exists_laidOut_of_complete {message : Bytes}
    (complete : (optionWalk message).truncation? = none) :
    let area : Bytes := message.drop optionsStart
    ∃ stop, LaidOut area 0 (optionWalk message).options stop ∧
      (optionWalk message).ending.StandsAt area stop := by
  intro area
  have stands : ∃ stop, LaidOut area 0 (optionWalk message).options stop ∧
      ((optionWalk message).truncation? = none → (optionWalk message).ending.StandsAt area stop) :=
    Framing.exists_laidOut (Nat.zero_le _)
  rcases stands with ⟨stop, laid, ends⟩
  exact ⟨stop, laid, ends complete⟩

/-- What is written of a complete option area fits into it, along with a header for each option
that goes. -/
theorem length_withoutAgents_le {message : Bytes}
    (complete : (optionWalk message).truncation? = none) :
    let walk := optionWalk message
    (stripped false walk.options).length + walk.ending.padding + 2 * walk.agentOptions.length ≤
      (message.drop optionsStart).length := by
  dsimp only
  rcases exists_laidOut_of_complete complete with ⟨stop, laid, padded⟩
  have options := length_stripped_le laid false
  rw [(separate_options (optionWalk message)).1] at options
  have padding := congrArg List.length padded.padding
  rw [Bytes.length_slice_of_inRange ⟨padded.ordered, padded.within⟩,
    List.length_replicate] at padding
  have ordered := padded.ordered
  have within := padded.within
  omega

/-- The options that go leave room for the end marker. -/
theorem length_ended_le {message part : Bytes}
    (complete : (optionWalk message).truncation? = none)
    (marked : (optionWalk message).agentOptions ≠ [])
    (within : part.length ≤ (stripped false (optionWalk message).options).length +
      (optionWalk message).ending.padding) :
    (Bytes.padTo (message.take optionsStart ++ part ++ [endCode]) minimumSize).length ≤
      max minimumSize message.length := by
  -- The least header of one option is as long as the marker or longer.
  have room := length_withoutAgents_le complete
  dsimp only at room
  have gone := List.length_pos_iff.2 marked
  have whole : (message.drop optionsStart).length = message.length - optionsStart :=
    List.length_drop
  have front : (message.take optionsStart).length ≤ optionsStart := List.length_take_le _ _
  rw [Bytes.length_padTo, List.length_append, List.length_append, List.length_singleton]
  omega

/-- What stays of a complete option area, up to its end. -/
theorem without_agentOptions {message : Bytes}
    (complete : (optionWalk message).truncation? = none) :
    let area : Bytes := message.drop optionsStart
    let walk := optionWalk message
    Bytes.without (area.take (walk.ending.stop area)) walk.agentOptions =
      stripped false walk.options ++ List.replicate walk.ending.padding padCode := by
  intro area walk
  rcases exists_laidOut_of_complete complete with ⟨stop, laid, padded⟩
  have parts : area.take (walk.ending.stop area) =
      area.slice 0 stop ++ List.replicate walk.ending.padding padCode := by
    rw [← padded.padding, Bytes.slice_append (Nat.zero_le _) padded.ordered]
    rfl
  have size : (area.slice 0 stop).length = stop := by
    have bounds : area.InRange 0 stop := laid.ordered (Nat.zero_le _)
    exact Bytes.length_slice_of_inRange bounds
  rw [parts, Bytes.without, Bytes.withoutFrom_append, ← (separate_options walk).1,
    withoutFrom_agents laid, Nat.zero_add, size, Bytes.withoutFrom_of_behind]
  intro option member
  exact laid.stop_le (Nat.zero_le _) option (mem_of_mem_agents member)

end Dhcp4

end DhcpRelay
