import DhcpRelay.Tlv.Walk

/-!
# Where options stand

A walk over a DHCPv4 area says where the bytes of its options are: first padding, then
the option as it is written, and right behind it the padding of the next one.
-/

namespace DhcpRelay

namespace Bytes

variable {bytes front back : Bytes} {start middle stop : Nat}

@[simp] theorem slice_self (bytes : Bytes) (position : Nat) :
    bytes.slice position position = [] := by
  rw [slice, Nat.sub_self, List.take_zero]

theorem slice_append (ordered : start ≤ middle) (later : middle ≤ stop) :
    bytes.slice start middle ++ bytes.slice middle stop = bytes.slice start stop := by
  have whole : stop - start = (middle - start) + (stop - middle) := by omega
  have back : (bytes.drop start).drop (middle - start) = bytes.drop middle := by
    rw [List.drop_drop, Nat.add_sub_cancel' ordered]
  rw [slice, slice, slice, whole, List.take_add, back]

theorem slice_of_drop (here : bytes.drop start = front ++ back)
    (size : front.length = stop - start) : bytes.slice start stop = front := by
  rw [slice, here, List.take_left' size]

theorem slice_eq_drop_take (bytes : Bytes) (start stop : Nat) :
    bytes.slice start stop = (bytes.take stop).drop start := by
  rw [slice, List.drop_take]

theorem slice_of_take_eq {left right : Bytes} {count : Nat}
    (same : left.take count = right.take count) (inside : stop ≤ count) :
    left.slice start stop = right.slice start stop := by
  have front : ∀ bytes : Bytes, bytes.take stop = (bytes.take count).take stop := by
    intro bytes
    rw [List.take_take, Nat.min_eq_left inside]
  rw [slice_eq_drop_take, slice_eq_drop_take, front left, front right, same]

theorem drop_eq_slice_append (ordered : start ≤ stop) :
    bytes.drop start = bytes.slice start stop ++ bytes.drop stop := by
  have back : bytes.drop stop = (bytes.drop start).drop (stop - start) := by
    rw [List.drop_drop, Nat.add_sub_cancel' ordered]
  rw [slice, back, List.take_append_drop]

end Bytes

/-- The padding in front of an option starts at `position` of the area. -/
structure Tlv.StandsAt (option : Tlv) (area : Bytes) (position : Nat) : Prop where
  offset : option.offset = position + option.padding
  ordered : option.offset ≤ option.stop
  within : option.stop ≤ area.length
  padding : area.slice position option.offset = List.replicate option.padding padCode
  written : area.slice option.offset option.stop =
    Tlv.encode4 option.code.toUInt8 option.value

/-- The bytes from its code on are those that are written for it. -/
theorem Tlv.StandsAt.offset_add_length {option : Tlv} {area : Bytes} {position : Nat}
    (stands : option.StandsAt area position) :
    option.offset + (Tlv.encode4 option.code.toUInt8 option.value).length = option.stop := by
  rw [← stands.written, Bytes.length_slice_of_inRange ⟨stands.ordered, stands.within⟩,
    Nat.add_sub_cancel' stands.ordered]

/-- Options stand one behind the other. -/
inductive LaidOut (area : Bytes) : Nat → List Tlv → Nat → Prop where
  | nil {position : Nat} : LaidOut area position [] position
  | cons {position stop : Nat} {option : Tlv} {rest : List Tlv} :
      option.StandsAt area position → LaidOut area option.stop rest stop →
      LaidOut area position (option :: rest) stop

namespace LaidOut

variable {area : Bytes} {position stop : Nat} {options : List Tlv}

theorem ordered (laid : LaidOut area position options stop) (within : position ≤ area.length) :
    position ≤ stop ∧ stop ≤ area.length := by
  induction laid with
  | nil => exact ⟨Nat.le_refl _, within⟩
  | cons stands laid ih =>
      have later := ih stands.within
      have start := stands.offset
      have option := stands.ordered
      omega

/-- No option starts in front of them. -/
theorem le_offset (laid : LaidOut area position options stop) :
    ∀ option ∈ options, position ≤ option.offset := by
  induction laid with
  | nil => simp
  | cons stands laid ih =>
      have start := stands.offset
      have ordered := stands.ordered
      intro found member
      rcases List.mem_cons.1 member with rfl | later
      · omega
      · have behind := ih found later
        omega

/-- No option ends behind them. -/
theorem stop_le (laid : LaidOut area position options stop) (within : position ≤ area.length) :
    ∀ option ∈ options, option.stop ≤ stop := by
  induction laid with
  | nil => simp
  | cons stands laid ih =>
      intro found member
      rcases List.mem_cons.1 member with rfl | later
      · exact (laid.ordered stands.within).1
      · exact ih stands.within found later

end LaidOut

/-- Where the options of an area end: at the end marker or with the area. -/
def Ending.stop (ending : Ending) (area : Bytes) : Nat :=
  match ending with
  | .marker _ offset => offset
  | _ => area.length

/-- Padding is all that stands between `position` and the end of the options. -/
structure Ending.StandsAt (ending : Ending) (area : Bytes) (position : Nat) : Prop where
  ordered : position ≤ ending.stop area
  within : ending.stop area ≤ area.length
  padding : area.slice position (ending.stop area) = List.replicate ending.padding padCode

/-- The bytes that a reading stands for. -/
def Reading.Spells (bytes : Bytes) : Reading → Prop
  | .exhausted padding => bytes = List.replicate padding padCode
  | .marker padding => ∃ rest, bytes = List.replicate padding padCode ++ endCode :: rest
  | .truncated _ => True
  | .option padding code value rest =>
      bytes = List.replicate padding padCode ++ (Tlv.encode4 code.toUInt8 value ++ rest)

namespace Framing

/-- The walk that starts with a reading at `offset`. -/
def walkOf (framing : Framing) (offset : Nat) : Reading → Walk
  | .exhausted padding => ⟨[], .exhausted padding⟩
  | .marker padding => ⟨[], .marker padding (offset + padding)⟩
  | .truncated padding => ⟨[], .truncated (offset + padding)⟩
  | .option padding code value rest =>
      let start := offset + padding
      let stop := start + framing.headerSize + value.length
      let later := framing.walkFrom stop rest
      ⟨⟨padding, start, stop, code, value⟩ :: later.options, later.ending⟩

theorem walkFrom_eq_walkOf (framing : Framing) (offset : Nat) (area : Bytes) :
    framing.walkFrom offset area = framing.walkOf offset (framing.read area) := by
  rw [walkFrom]
  split <;> rename_i reading <;> rw [reading] <;> rfl

/-- Reading an area behind padding gives back what is written there. -/
theorem spells_read4 (start : Nat) (area : Bytes) :
    (read4 start area).Spells (List.replicate start padCode ++ area) := by
  fun_induction read4 start area with
  | case1 start => exact List.append_nil _
  | case2 start rest ih =>
      rw [List.replicate_succ', List.append_assoc] at ih
      exact ih
  | case3 start rest => exact ⟨rest, rfl⟩
  | case4 => trivial
  | case5 start code notPad notEnd length rest value later split =>
      rcases Bytes.splitExactly_eq_some_iff.1 split with ⟨rfl, size⟩
      simp [Reading.Spells, Tlv.encode4, size]
  | case6 => trivial

/-- An option and its padding, read at `position`. -/
theorem standsAt_of_drop {area value later : Bytes} {position padding : Nat} {code : UInt16}
    (here : area.drop position =
      List.replicate padding padCode ++ (Tlv.encode4 code.toUInt8 value ++ later)) :
    let offset := position + padding
    let stop := offset + dhcp4.headerSize + value.length
    (⟨padding, offset, stop, code, value⟩ : Tlv).StandsAt area position ∧
      area.drop stop = later := by
  intro offset stop
  have padded : (List.replicate padding padCode).length = offset - position := by
    rw [List.length_replicate, Nat.add_sub_cancel_left]
  have size : (Tlv.encode4 code.toUInt8 value).length = stop - offset := by
    simp only [Tlv.encode4, List.length_cons, headerSize, stop]
    omega
  have behind : area.drop offset = Tlv.encode4 code.toUInt8 value ++ later := by
    rw [← List.drop_drop, here, List.drop_left' List.length_replicate]
  have ordered : offset ≤ stop := by omega
  have rest : area.drop stop = later := by
    rw [← Nat.add_sub_cancel' ordered, ← List.drop_drop, behind, List.drop_left' size]
  have lengths := congrArg List.length behind
  rw [List.length_drop, List.length_append, size] at lengths
  have header : offset + 2 ≤ stop := Nat.le_add_right _ value.length
  have within : stop ≤ area.length := by omega
  exact ⟨⟨rfl, ordered, within, Bytes.slice_of_drop here padded,
    Bytes.slice_of_drop behind size⟩, rest⟩

/-- The options of a walk stand where it says, and if the walk is complete, only padding
follows them. -/
theorem exists_laidOut {area : Bytes} {position : Nat} (within : position ≤ area.length) :
    ∃ stop, LaidOut area position (dhcp4.walkFrom position (area.drop position)).options stop ∧
      ((dhcp4.walkFrom position (area.drop position)).truncation? = none →
        (dhcp4.walkFrom position (area.drop position)).ending.StandsAt area stop) := by
  generalize here : area.drop position = rest
  -- What is left gets shorter with each option, and the walk goes on right behind it.
  induction size : rest.length using Nat.strongRecOn generalizing position rest with
  | ind count ih =>
      have spelled : (dhcp4.read rest).Spells rest := spells_read4 0 rest
      have left : rest.length = area.length - position := here ▸ List.length_drop
      rw [walkFrom_eq_walkOf]
      cases reading : dhcp4.read rest with
      | exhausted padding =>
          rw [reading] at spelled
          have padded : rest.length = padding := spelled ▸ List.length_replicate
          refine ⟨position, .nil, fun _ => ⟨within, Nat.le_refl _, ?_⟩⟩
          refine Bytes.slice_of_drop (here.trans (spelled.trans (List.append_nil _).symm)) ?_
          rw [List.length_replicate]
          exact padded.symm.trans left
      | marker padding =>
          rw [reading] at spelled
          rcases spelled with ⟨later, bytes⟩
          have room : padding + (later.length + 1) = rest.length := by
            rw [bytes, List.length_append, List.length_replicate, List.length_cons]
          refine ⟨position, .nil, fun _ => ⟨Nat.le_add_right _ _, ?_, ?_⟩⟩
          · change position + padding ≤ area.length
            omega
          · refine Bytes.slice_of_drop (here.trans bytes) ?_
            rw [List.length_replicate]
            exact (Nat.add_sub_cancel_left position padding).symm
      | truncated padding => exact ⟨position, .nil, by simp [walkOf, Walk.truncation?]⟩
      | option padding code value later =>
          have shorter := length_rest_lt_of_read reading
          rw [reading] at spelled
          rcases standsAt_of_drop (here.trans spelled) with ⟨stands, behind⟩
          rcases ih later.length (size ▸ shorter) stands.within later behind rfl with
            ⟨stop, laid, ends⟩
          exact ⟨stop, .cons stands laid, ends⟩

end Framing

end DhcpRelay
