import DhcpRelay.Proofs.Bytes
import DhcpRelay.Proofs.CursorWalk

/-!
# The grammar of DHCPv4 option areas

A DHCPv4 area is written as options, each behind padding, and an ending: the end of the area, the
end marker with anything behind it, or an option that breaks off.  An area can be written so in
one way only, and it is that way in which it is walked and in which a cursor reads it.
-/

namespace DhcpRelay

/-! ## The grammar -/

/-- There is no length byte, or the value that it announces passes the end. -/
def Framing.BreaksOff4 : Bytes → Prop
  | [] => True
  | length :: rest => rest.length < length.toNat

open Framing

/-- What stands in an area from `position` on is padding, and then nothing more, the end marker
or an option that breaks off. -/
inductive Ending.Closes (area : Bytes) (position : Nat) : Ending → Prop where
  | exhausted {padding : Nat} :
      area.drop position = List.replicate padding padCode →
      Closes area position (.exhausted padding)
  | marker {padding : Nat} {rest : Bytes} :
      area.drop position = List.replicate padding padCode ++ endCode :: rest →
      Closes area position (.marker padding (position + padding))
  | truncated {padding : Nat} {code : UInt8} {rest : Bytes} :
      area.drop position = List.replicate padding padCode ++ code :: rest →
      IsOptionCode code → BreaksOff4 rest →
      Closes area position (.truncated (position + padding))

/-- The area is written as the options, one behind the other, and the ending behind them. -/
def Walk.Describes (walk : Walk) (area : Bytes) : Prop :=
  ∃ stop, LaidOut area 0 walk.options stop ∧ (∀ option ∈ walk.options, Fits4 option) ∧
    walk.ending.Closes area stop

namespace Framing

variable {area : Bytes} {position stop : Nat} {options : List Tlv} {ending : Ending}

theorem read4_of_breaksOff {code : UInt8} {rest : Bytes} (isCode : IsOptionCode code)
    (broken : BreaksOff4 rest) : read4 0 (code :: rest) = .truncated 0 := by
  cases rest with
  | nil =>
      rw [read4]
      exact (if_neg isCode.1).trans (if_neg isCode.2)
  | cons length rest =>
      rw [read4_option isCode, Bytes.splitExactly_eq_none_iff.2 broken]

theorem breaksOff_of_read4 {start padding : Nat}
    (reading : read4 start area = .truncated padding) :
    ∃ code rest, List.replicate start padCode ++ area =
      List.replicate padding padCode ++ code :: rest ∧ IsOptionCode code ∧ BreaksOff4 rest := by
  fun_induction read4 start area with
  | case1 => cases reading
  | case2 start rest ih =>
      rw [List.replicate_succ', List.append_assoc] at ih
      exact ih reading
  | case3 => cases reading
  | case4 start code notPad notEnd =>
      cases reading
      exact ⟨code, [], rfl, ⟨notPad, notEnd⟩, trivial⟩
  | case5 => cases reading
  | case6 start code notPad notEnd length rest none =>
      cases reading
      exact ⟨code, length :: rest, rfl, ⟨notPad, notEnd⟩, Bytes.splitExactly_eq_none_iff.1 none⟩

/-- Where no option stands, the walk is over. -/
theorem closes_iff :
    ending.Closes area position ↔ dhcp4.walkFrom position (area.drop position) = ⟨[], ending⟩ := by
  rw [walkFrom_eq_walkOf]
  constructor
  · intro closes
    cases closes with
    | @exhausted padding here =>
        have reading : dhcp4.read (List.replicate padding padCode ++ []) = .exhausted padding :=
          read4_replicate_append padding []
        rw [here, ← List.append_nil (List.replicate padding padCode), reading]
        rfl
    | @marker padding rest here =>
        have reading : dhcp4.read (List.replicate padding padCode ++ endCode :: rest) =
            .marker padding := read4_replicate_append padding (endCode :: rest)
        rw [here, reading]
        rfl
    | @truncated padding code rest here isCode broken =>
        have reading : dhcp4.read (List.replicate padding padCode ++ code :: rest) =
            .truncated padding := by
          refine (read4_replicate_append padding (code :: rest)).trans ?_
          rw [read4_of_breaksOff isCode broken]
          rfl
        rw [here, reading]
        rfl
  · intro walked
    have spelled : (dhcp4.read (area.drop position)).Spells (area.drop position) :=
      spells_read4 0 (area.drop position)
    cases reading : dhcp4.read (area.drop position) with
    | exhausted padding =>
        rw [reading] at spelled walked
        cases walked
        exact .exhausted spelled
    | marker padding =>
        rw [reading] at spelled walked
        rcases spelled with ⟨rest, here⟩
        cases walked
        exact .marker here
    | truncated padding =>
        rcases breaksOff_of_read4 reading with ⟨code, rest, here, isCode, broken⟩
        rw [reading] at walked
        cases walked
        exact .truncated here isCode broken
    | option padding code value rest =>
        rw [reading] at walked
        cases walked

/-- An option is read where it stands. -/
theorem read_of_standsAt {option : Tlv} (stands : option.StandsAt area position)
    (fits : Fits4 option) :
    dhcp4.read (area.drop position) =
      .option option.padding option.code option.value (area.drop option.stop) := by
  rcases fits with ⟨isCode, sameCode, short⟩
  have here : area.drop position = List.replicate option.padding padCode ++
      (Tlv.encode4 option.code.toUInt8 option.value ++ area.drop option.stop) := by
    have reached : position ≤ option.offset := stands.offset ▸ Nat.le_add_right ..
    rw [Bytes.drop_eq_slice_append reached, stands.padding,
      Bytes.drop_eq_slice_append stands.ordered, stands.written]
  have reading := read_encode4_append isCode short (area.drop option.stop)
  change read4 0 _ = _ at reading
  change read4 0 _ = _
  rw [here, read4_replicate_append, reading, sameCode]
  rfl

/-- The walk goes over the options that stand in an area, and on behind them. -/
theorem walkFrom_of_laidOut (laid : LaidOut area position options stop)
    (fit : ∀ option ∈ options, Fits4 option) :
    let behind := dhcp4.walkFrom stop (area.drop stop)
    dhcp4.walkFrom position (area.drop position) = ⟨options ++ behind.options, behind.ending⟩ := by
  induction laid with
  | nil => rfl
  | @cons position stop option rest stands laid ih =>
      intro behind
      rw [List.forall_mem_cons] at fit
      have size : option.offset + dhcp4.headerSize + option.value.length = option.stop := by
        rw [← stands.offset_add_length, Tlv.encode4, List.length_cons, List.length_cons,
          headerSize]
        omega
      rw [walkFrom_eq_walkOf, read_of_standsAt stands fit.1, walkOf, ← stands.offset, size,
        ih fit.2]
      rfl

/-- An area is written as its walk describes it, and in no other way. -/
theorem describes_iff {walk : Walk} : walk.Describes area ↔ dhcp4.walk area = walk := by
  constructor
  · intro describes
    rcases describes with ⟨stop, laid, fit, closes⟩
    have walked : dhcp4.walk area = _ := walkFrom_of_laidOut laid fit
    rw [walked, closes_iff.1 closes]
    exact congrArg (Walk.mk · walk.ending) (List.append_nil walk.options)
  · intro same
    subst same
    have stands : ∃ stop, LaidOut area 0 (dhcp4.walk area).options stop ∧ _ :=
      exists_laidOut (Nat.zero_le area.length)
    rcases stands with ⟨stop, laid, _⟩
    have fit : ∀ option ∈ (dhcp4.walk area).options, Fits4 option :=
      fun option member => fits4_of_mem_walkFrom member
    -- The walk has all of its options in front of `stop`, so there are none behind.
    have walked : dhcp4.walk area = _ := walkFrom_of_laidOut laid fit
    have none := List.self_eq_append_right.1 (congrArg Walk.options walked)
    have ending := congrArg Walk.ending walked
    refine ⟨stop, laid, fit, closes_iff.2 ?_⟩
    rw [ending, ← none]

end Framing

/-! ## Behind the end marker -/

theorem Tlv.StandsAt.of_take_eq {option : Tlv} {area other : Bytes} {position count : Nat}
    (stands : option.StandsAt area position) (same : other.take count = area.take count)
    (inside : option.stop ≤ count) (room : count ≤ other.length) :
    option.StandsAt other position where
  offset := stands.offset
  ordered := stands.ordered
  within := Nat.le_trans inside room
  padding := by
    rw [Bytes.slice_of_take_eq same (Nat.le_trans stands.ordered inside), stands.padding]
  written := by rw [Bytes.slice_of_take_eq same inside, stands.written]

theorem LaidOut.of_take_eq {area other : Bytes} {position stop : Nat} {options : List Tlv}
    (laid : LaidOut area position options stop) (same : other.take stop = area.take stop)
    (room : stop ≤ other.length) : LaidOut other position options stop := by
  induction laid with
  | nil => exact .nil
  | cons stands laid ih =>
      have inside := (laid.ordered stands.within).1
      exact .cons (stands.of_take_eq same inside room) (ih same room)

/-- What stands behind the end marker does not count. -/
theorem Walk.Describes.behind_marker {options : List Tlv} {area : Bytes} {padding offset : Nat}
    (describes : Describes ⟨options, .marker padding offset⟩ area) (behind : Bytes) :
    Describes ⟨options, .marker padding offset⟩ (area.take (offset + 1) ++ behind) := by
  rcases describes with ⟨stop, laid, fit, closes⟩
  cases closes with
  | @marker _ rest here =>
      let front := List.replicate padding padCode
      have size : (area.take stop).length = stop :=
        List.length_take_of_le (laid.ordered (Nat.zero_le _)).2
      have upTo : area.take (stop + padding + 1) = area.take stop ++ (front ++ [endCode]) := by
        rw [Nat.add_assoc, List.take_add, here]
        congr 1
        simp [front, List.take_append]
      have changed : area.take (stop + padding + 1) ++ behind =
          area.take stop ++ (front ++ endCode :: behind) := by
        rw [upTo, List.append_assoc, List.append_assoc]
        rfl
      rw [changed]
      refine ⟨stop, laid.of_take_eq (List.take_left' size) ?_, fit, .marker (List.drop_left' size)⟩
      rw [List.length_append, size]
      exact Nat.le_add_right ..

/-! ## The cursor -/

/-- No option is cut short. -/
def Ending.IsWhole (ending : Ending) : Prop :=
  ∀ offset, ending ≠ .truncated offset

theorem Walk.items_eq_map_iff {walk : Walk} {options : List Tlv} :
    walk.items = options.map .ok ↔ walk.ending.IsWhole ∧ walk.options = options := by
  rcases walk with ⟨found, ending⟩
  cases ending with
  | truncated offset =>
      constructor
      · intro same
        exact absurd same (append_error_ne_map_ok _ (.truncated offset) options)
      · intro both
        exact absurd rfl (both.1 offset)
  | _ => simp [Walk.items, Walk.truncation?, Ending.IsWhole, List.map_inj_right]

namespace Cursor

variable {cursor last : Cursor} {items : List (Except OptionFault Tlv)}

/-- Asking for the next option until there is none yields the items and leaves the cursor as
`last`. -/
inductive Yields : Cursor → List (Except OptionFault Tlv) → Cursor → Prop where
  | done {cursor last : Cursor} : cursor.next = (none, last) → Yields cursor [] last
  | more {cursor later last : Cursor} {item : Except OptionFault Tlv}
      {items : List (Except OptionFault Tlv)} :
      cursor.next = (some item, later) → Yields later items last →
      Yields cursor (item :: items) last

/-- A cursor that does not run yields nothing and stays as it is. -/
theorem next_of_not_running (stopped : cursor.phase ≠ .running) : cursor.next = (none, cursor) := by
  rw [next]
  split
  · rfl
  · rfl
  · exact absurd ‹_› stopped

/-- A cursor runs on behind an option, and behind nothing else. -/
theorem not_running_next (stops : ∀ option, cursor.next.1 ≠ some (.ok option)) :
    cursor.next.2.phase ≠ .running := by
  intro running
  rw [next] at stops running
  split at running
  · simp_all
  · simp_all
  · split at running
    · cases running
    · cases running
    · cases running
    · simp_all

theorem reset_next (cursor : Cursor) : cursor.next.2.reset = cursor.reset := by
  rw [next]
  split
  · rfl
  · rfl
  · split <;> rfl

/-- Draining is asking for the next option until there is none. -/
theorem yields_drain (cursor : Cursor) : cursor.Yields cursor.drain.1 cursor.drain.2 := by
  fun_induction drain cursor with
  | case1 cursor found => exact .done (Prod.ext found rfl)
  | case2 cursor fault found =>
      have stopped : cursor.next.2.phase ≠ .running := not_running_next (by simp [found])
      exact .more (Prod.ext found rfl) (.done (next_of_not_running stopped))
  | case3 cursor option found later last drained ih =>
      rw [drained] at ih
      exact .more (Prod.ext found rfl) ih

namespace Yields

theorem next_eq (yields : cursor.Yields items last) : last.next = (none, last) := by
  induction yields with
  | @done cursor last none =>
      have stopped : cursor.next.2.phase ≠ .running := not_running_next (by simp [none])
      rw [none] at stopped
      exact next_of_not_running stopped
  | more _ _ ih => exact ih

theorem reset_eq (yields : cursor.Yields items last) : last.reset = cursor.reset := by
  induction yields with
  | @done cursor last none => rw [← reset_next cursor, none]
  | @more cursor later last item items some _ ih => rw [ih, ← reset_next cursor, some]

end Yields

/-- The cursor accepts exactly the grammar of DHCPv4 areas.  It yields options and no fault if
and only if the area is written as these options, whole up to the end marker or else to the end
of the area; then it remembers the marker, and what stands behind the marker makes no difference.
Any other area is written as options and one that breaks off: the cursor yields the options, then
the fault at the offset of the broken one, and remembers no marker.  Behind its last item the
cursor yields nothing until it is reset, and the same items again after that. -/
theorem drain_eq_iff_describes (area : Bytes) :
    let cursor := start .dhcp4 area
    let items := cursor.drain.1
    let last := cursor.drain.2
    cursor.Yields items last ∧
      (∀ options, items = options.map .ok ↔
        ∃ ending : Ending, ending.IsWhole ∧ Walk.Describes ⟨options, ending⟩ area) ∧
      (∀ options ending, Walk.Describes ⟨options, ending⟩ area →
        last.endMarker = ending.marker?) ∧
      (∀ options padding offset, Walk.Describes ⟨options, .marker padding offset⟩ area →
        ∀ behind, let other := start .dhcp4 (area.take (offset + 1) ++ behind)
          other.drain.1 = items ∧ other.drain.2.endMarker = some offset) ∧
      ((¬ ∃ options : List Tlv, items = options.map .ok) →
        ∃ options offset, Walk.Describes ⟨options, .truncated offset⟩ area ∧
          items = options.map .ok ++ [.error (.truncated offset)] ∧ last.endMarker = none) ∧
      last.next = (none, last) ∧ last.reset.Yields items last := by
  intro cursor items last
  have yields : cursor.Yields items last := yields_drain cursor
  have yielded : items = (dhcp4.walk area).items := drain_start .dhcp4 area
  have marked : last.endMarker = (dhcp4.walk area).ending.marker? :=
    endMarker_drain_start .dhcp4 area
  have again : last.reset = cursor := yields.reset_eq
  refine ⟨yields, ?_, ?_, ?_, ?_, yields.next_eq, again ▸ yields⟩
  · intro options
    rw [yielded, Walk.items_eq_map_iff]
    constructor
    · rintro ⟨whole, rfl⟩
      exact ⟨_, whole, describes_iff.2 rfl⟩
    · rintro ⟨ending, whole, describes⟩
      rw [describes_iff.1 describes]
      exact ⟨whole, rfl⟩
  · intro options ending describes
    rw [marked, describes_iff.1 describes]
  · intro options padding offset describes behind other
    have same : dhcp4.walk (area.take (offset + 1) ++ behind) = dhcp4.walk area :=
      (describes_iff.1 (describes.behind_marker behind)).trans (describes_iff.1 describes).symm
    refine ⟨?_, ?_⟩
    · rw [yielded, ← same]
      exact drain_start .dhcp4 _
    · rw [endMarker_drain_start, same, describes_iff.1 describes]
      rfl
  · intro faulty
    rcases walked : dhcp4.walk area with ⟨options, ending⟩
    rw [walked] at yielded marked
    cases ending with
    | truncated offset => exact ⟨options, offset, describes_iff.2 walked, yielded, marked⟩
    | _ => exact absurd ⟨options, yielded.trans (List.append_nil _)⟩ faulty

/-- An area with padding, an end marker and more behind it, and one that breaks off. -/
theorem drain_eq_iff_describes_paddedArea :
    let area : Bytes := [0, 53, 1, 5, 0, 255, 82]
    let broken : Bytes := [53, 1, 5, 0, 82, 9, 1]
    let options : List Tlv := [⟨1, 1, 4, 53, [5]⟩]
    Walk.Describes ⟨options, .marker 1 5⟩ area ∧
      (start .dhcp4 area).drain.1 = options.map .ok ∧
      (start .dhcp4 area).drain.2.endMarker = some 5 ∧
      (start .dhcp4 [0, 53, 1, 5, 0, 255, 9, 9]).drain.1 = options.map .ok ∧
      (start .dhcp4 broken).drain.1 =
        [.ok ⟨0, 0, 3, 53, [5]⟩, .error (.truncated 4)] := by
  intro area broken options
  have describes : Walk.Describes ⟨options, .marker 1 5⟩ area :=
    describes_iff.2 (by decide +kernel)
  have breaks : Walk.Describes ⟨[⟨0, 0, 3, 53, [5]⟩], .truncated 4⟩ broken :=
    describes_iff.2 (by decide +kernel)
  rcases drain_eq_iff_describes area with ⟨_, accepts, marker, behind, _⟩
  have yielded := (accepts options).2 ⟨.marker 1 5, nofun, describes⟩
  refine ⟨describes, yielded, marker _ _ describes,
    ((behind options 1 5 describes [9, 9]).1).trans yielded, ?_⟩
  rcases drain_eq_iff_describes broken with ⟨_, accepts, _, _, breaksOff, _⟩
  have faulty : ¬ ∃ options : List Tlv, (start .dhcp4 broken).drain.1 = options.map .ok := by
    rintro ⟨options, yielded⟩
    rcases (accepts options).1 yielded with ⟨ending, whole, described⟩
    have same := (describes_iff.1 breaks).symm.trans (describes_iff.1 described)
    exact whole 4 (congrArg Walk.ending same).symm
  rcases breaksOff faulty with ⟨found, offset, described, yielded, _⟩
  cases (describes_iff.1 described).symm.trans (describes_iff.1 breaks)
  exact yielded

end Cursor

end DhcpRelay
