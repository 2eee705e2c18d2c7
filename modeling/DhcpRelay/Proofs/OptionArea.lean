import DhcpRelay.Tlv.Walk

/-!
# What an option area holds

The offsets and the padding in a walk depend on what stands before the area.
`Walk.contents` forgets them: it keeps the codes and values of the options and
whether the area breaks off inside one.  The contents of an area that is put
together from parts are the contents of its parts.
-/

namespace DhcpRelay

/-- The code and the value of an option. -/
def Tlv.pair (option : Tlv) : UInt16 × Bytes :=
  (option.code, option.value)

/-- The codes and values of the options of an area, and whether it is cut short. -/
structure Contents where
  pairs : List (UInt16 × Bytes)
  truncated : Bool
  deriving DecidableEq, Repr

namespace Contents

/-- The contents with options in front. -/
def prepend (front : List (UInt16 × Bytes)) (contents : Contents) : Contents :=
  ⟨front ++ contents.pairs, contents.truncated⟩

@[simp] theorem prepend_prepend (front middle : List (UInt16 × Bytes)) (contents : Contents) :
    prepend front (prepend middle contents) = prepend (front ++ middle) contents := by
  simp [prepend]

theorem prepend_inj {front : List (UInt16 × Bytes)} {left right : Contents} :
    prepend front left = prepend front right ↔ left = right := by
  cases left
  cases right
  simp [prepend]

end Contents

/-- The first item of a code stands behind items of other codes. -/
theorem find?_code_eq_some_iff {Item : Type} {codeOf : Item → UInt16} {items : List Item}
    {item : Item} {code : UInt16} :
    items.find? (codeOf · == code) = some item ↔
      codeOf item = code ∧ ∃ before after,
        items = before ++ item :: after ∧ ∀ other ∈ before, codeOf other ≠ code := by
  simp only [List.find?_eq_some_iff_append, beq_iff_eq, Bool.not_eq_true', beq_eq_false_iff_ne]

namespace Walk

/-- The contents of the area that was walked. -/
def contents (walk : Walk) : Contents :=
  ⟨walk.pairs, walk.truncation?.isSome⟩

theorem contents_eq_iff {walk : Walk} {pairs : List (UInt16 × Bytes)} :
    walk.contents = ⟨pairs, false⟩ ↔ walk.truncation? = none ∧ walk.pairs = pairs := by
  simp [contents, and_comm]

end Walk

namespace Framing

/-- The contents of an area. -/
def contents (framing : Framing) (area : Bytes) : Contents :=
  (framing.walk area).contents

/-! ## One option at a time -/

theorem contents_walkFrom (framing : Framing) (offset : Nat) (area : Bytes) :
    (framing.walkFrom offset area).contents = framing.contents area := by
  suffices shifted : ∀ start,
      (framing.walkFrom offset area).contents = (framing.walkFrom start area).contents from
    shifted 0
  induction size : area.length using Nat.strongRecOn generalizing offset area with
  | ind count ih =>
      intro start
      rw [walkFrom, walkFrom]
      split
      · rfl
      · rfl
      · rfl
      · rename_i padding code value rest reading
        have shorter : rest.length < count := size ▸ length_rest_lt_of_read reading
        have later := ih rest.length shorter
          (offset + padding + framing.headerSize + value.length) rest rfl
          (start + padding + framing.headerSize + value.length)
        simp only [Walk.contents, Walk.pairs, Walk.truncation?, Contents.mk.injEq] at later ⊢
        simp [later.1, later.2]

theorem contents_of_exhausted {framing : Framing} {area : Bytes} {padding : Nat}
    (reading : framing.read area = .exhausted padding) :
    framing.contents area = ⟨[], false⟩ := by
  rw [contents, walk, walkFrom, reading]
  rfl

theorem contents_of_marker {framing : Framing} {area : Bytes} {padding : Nat}
    (reading : framing.read area = .marker padding) :
    framing.contents area = ⟨[], false⟩ := by
  rw [contents, walk, walkFrom, reading]
  rfl

theorem contents_of_truncated {framing : Framing} {area : Bytes} {padding : Nat}
    (reading : framing.read area = .truncated padding) :
    framing.contents area = ⟨[], true⟩ := by
  rw [contents, walk, walkFrom, reading]
  rfl

theorem contents_of_option {framing : Framing} {area value rest : Bytes} {padding : Nat}
    {code : UInt16} (reading : framing.read area = .option padding code value rest) :
    framing.contents area = (framing.contents rest).prepend [(code, value)] := by
  rw [contents, walk, walkFrom, reading, ← contents_walkFrom framing _ rest]
  rfl

/-! ## DHCPv4 areas -/

/-- A code that is neither padding nor the end marker. -/
def IsOptionCode (code : UInt8) : Prop :=
  code ≠ padCode ∧ code ≠ endCode

instance (code : UInt8) : Decidable (IsOptionCode code) :=
  inferInstanceAs (Decidable (_ ∧ _))

end Framing

/-- The same reading with more padding in front. -/
def Reading.behind (count : Nat) : Reading → Reading
  | exhausted padding => exhausted (count + padding)
  | marker padding => marker (count + padding)
  | truncated padding => truncated (count + padding)
  | option padding code value rest => option (count + padding) code value rest

namespace Framing

theorem read4_eq_behind (count : Nat) (area : Bytes) :
    read4 count area = (read4 0 area).behind count := by
  suffices shifted : ∀ padding,
      read4 (count + padding) area = (read4 padding area).behind count from shifted 0
  intro padding
  fun_induction read4 padding area with
  | case1 => simp [read4, Reading.behind]
  | case2 padding rest ih => simpa [read4, Nat.add_assoc] using ih
  | case3 => simp_all [read4, Reading.behind]
  | case4 => simp_all [read4, Reading.behind]
  | case5 => simp_all [read4, Reading.behind]
  | case6 => simp_all [read4, Reading.behind]

theorem read4_replicate_append (count : Nat) (area : Bytes) :
    read4 0 (List.replicate count padCode ++ area) = (read4 0 area).behind count := by
  rw [← read4_eq_behind]
  suffices shifted : ∀ padding,
      read4 padding (List.replicate count padCode ++ area) = read4 (padding + count) area by
    simpa using shifted 0
  induction count with
  | zero => simp
  | succ count ih =>
      intro padding
      simp only [List.replicate_succ, List.cons_append, read4, ↓reduceIte, ih]
      congr 1
      omega

theorem read4_option {code length : UInt8} (isCode : IsOptionCode code) (area : Bytes) :
    read4 0 (code :: length :: area) =
      match Bytes.splitExactly length.toNat area with
      | some (value, rest) => .option 0 code.toUInt16 value rest
      | none => .truncated 0 := by
  rw [read4]
  exact (if_neg isCode.1).trans (if_neg isCode.2)

/-- Padding in front of an area does not show in its contents. -/
theorem contents_replicate_append (count : Nat) (area : Bytes) :
    dhcp4.contents (List.replicate count padCode ++ area) = dhcp4.contents area := by
  have shifted : dhcp4.read (List.replicate count padCode ++ area) =
      (dhcp4.read area).behind count :=
    read4_replicate_append count area
  cases reading : dhcp4.read area with
  | exhausted padding =>
      rw [reading] at shifted
      rw [contents_of_exhausted shifted, contents_of_exhausted reading]
  | marker padding =>
      rw [reading] at shifted
      rw [contents_of_marker shifted, contents_of_marker reading]
  | truncated padding =>
      rw [reading] at shifted
      rw [contents_of_truncated shifted, contents_of_truncated reading]
  | option padding code value rest =>
      rw [reading] at shifted
      rw [contents_of_option shifted, contents_of_option reading]

theorem contents_endCode_cons (area : Bytes) :
    dhcp4.contents (endCode :: area) = ⟨[], false⟩ := by
  have reading : dhcp4.read (endCode :: area) = .marker 0 := rfl
  exact contents_of_marker reading

theorem read_encode4_append {code : UInt8} {value : Bytes} (isCode : IsOptionCode code)
    (short : value.length < 256) (area : Bytes) :
    dhcp4.read (Tlv.encode4 code value ++ area) = .option 0 code.toUInt16 value area := by
  have split : Bytes.splitExactly value.length (value ++ area) = some (value, area) :=
    Bytes.splitExactly_eq_some_iff.2 ⟨rfl, rfl⟩
  change read4 0 (code :: UInt8.ofNat value.length :: (value ++ area)) = _
  rw [read4_option isCode, UInt8.toNat_ofNat_of_lt' short, split]

theorem contents_encode4_append {code : UInt8} {value : Bytes} (isCode : IsOptionCode code)
    (short : value.length < 256) (area : Bytes) :
    dhcp4.contents (Tlv.encode4 code value ++ area) =
      (dhcp4.contents area).prepend [(code.toUInt16, value)] :=
  contents_of_option (read_encode4_append isCode short area)

theorem split_of_contents_eq {code length : UInt8} (isCode : IsOptionCode code) {area value : Bytes}
    {read : UInt16} {later : List (UInt16 × Bytes)} {truncated : Bool}
    (equal : dhcp4.contents (code :: length :: area) = ⟨(read, value) :: later, truncated⟩) :
    ∃ rest, Bytes.splitExactly length.toNat area = some (value, rest) := by
  have reading : dhcp4.read (code :: length :: area) = _ := read4_option isCode area
  cases split : Bytes.splitExactly length.toNat area with
  | none =>
      rw [split] at reading
      simp [contents_of_truncated reading] at equal
  | some parts =>
      rcases parts with ⟨found, rest⟩
      rw [split] at reading
      rw [contents_of_option reading] at equal
      simp only [Contents.prepend, List.cons_append, Contents.mk.injEq, List.cons.injEq,
        Prod.mk.injEq] at equal
      exact ⟨rest, by rw [equal.1.1.2]⟩

/-- An option that lost zero bytes at its end reads differently with anything
else in their place. -/
theorem contents_cut_ne {code mark : UInt8} {value part rest : Bytes} {count : Nat}
    (isCode : IsOptionCode code) (short : value.length < 256)
    (cut : Tlv.encode4 code value = part ++ List.replicate (count + 1) 0) (visible : mark ≠ 0)
    {read : UInt16} {later : List (UInt16 × Bytes)} {truncated : Bool} :
    dhcp4.contents (part ++ mark :: rest) ≠ ⟨(read, value) :: later, truncated⟩ := by
  intro equal
  rw [List.replicate_succ] at cut
  rcases part with _ | ⟨first, _ | ⟨length, kept⟩⟩
  · -- Nothing is left: the code would be a zero byte.
    simp only [Tlv.encode4, List.nil_append, List.cons.injEq] at cut
    exact isCode.1 cut.1
  · -- Only the code is left: the value is empty, and the mark is read as its length.
    simp only [Tlv.encode4, List.cons_append, List.nil_append, List.cons.injEq] at cut
    rcases cut with ⟨rfl, zero, _⟩
    rcases split_of_contents_eq isCode equal with ⟨_, split⟩
    have size := (Bytes.splitExactly_eq_some_iff.1 split).2
    have empty : value.length = 0 := by
      have number := congrArg UInt8.toNat zero
      rwa [UInt8.toNat_ofNat_of_lt' short] at number
    exact visible (UInt8.toNat_inj.1 (size.symm.trans empty))
  · -- The mark is read as the first byte of the value that was cut.
    simp only [Tlv.encode4, List.cons_append, List.cons.injEq] at cut
    rcases cut with ⟨rfl, rfl, tail⟩
    rcases split_of_contents_eq isCode equal with ⟨_, split⟩
    have joined := (Bytes.splitExactly_eq_some_iff.1 split).1
    rw [tail, List.append_assoc] at joined
    have heads : mark :: rest = 0 :: _ := List.append_cancel_left joined
    exact visible (List.cons.inj heads).1

/-! ## Options that were read -/

/-- An option that a DHCPv4 area can hold. -/
def Fits4 (option : Tlv) : Prop :=
  IsOptionCode option.code.toUInt8 ∧ option.code.toUInt8.toUInt16 = option.code ∧
    option.value.length < 256

theorem fits4_of_read4 {padding start : Nat} {area value rest : Bytes} {code : UInt16}
    (reading : read4 start area = .option padding code value rest) (offset stop : Nat) :
    Fits4 ⟨padding, offset, stop, code, value⟩ := by
  fun_induction read4 start area with
  | case1 => simp at reading
  | case2 start rest ih => exact ih reading
  | case3 => simp at reading
  | case4 => simp at reading
  | case5 start code notPad notEnd length area taken remaining split =>
      simp only [Reading.option.injEq] at reading
      rcases reading with ⟨_, rfl, rfl, _⟩
      have size := (Bytes.splitExactly_eq_some_iff.1 split).2
      refine ⟨⟨?_, ?_⟩, ?_, ?_⟩
      · simpa using notPad
      · simpa using notEnd
      · simp
      · rw [size]
        exact length.toNat_lt
  | case6 => simp at reading

theorem fits4_of_mem_walkFrom {offset : Nat} {area : Bytes} {option : Tlv}
    (member : option ∈ (dhcp4.walkFrom offset area).options) : Fits4 option := by
  induction size : area.length using Nat.strongRecOn generalizing offset area with
  | ind count ih =>
      rw [walkFrom] at member
      split at member
      · simp at member
      · simp at member
      · simp at member
      · rename_i padding code value rest reading
        have shorter : rest.length < count := size ▸ length_rest_lt_of_read reading
        simp only [List.mem_cons] at member
        rcases member with rfl | later
        · exact fits4_of_read4 reading _ _
        · exact ih rest.length shorter later rfl

end Framing

end DhcpRelay
