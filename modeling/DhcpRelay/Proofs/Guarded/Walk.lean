import DhcpRelay.Proofs.Guarded.Basic
import DhcpRelay.Proofs.OptionLayout

/-!
# Walking an option area by position

A cursor keeps the whole area and a position in it.  Before it takes the value of an
option it checks that the area holds it, so the value is a slice within bounds.
-/

namespace DhcpRelay

theorem Bytes.length_slice_add {bytes : Bytes} {start count : Nat}
    (within : start + count ≤ bytes.length) : (bytes.slice start (start + count)).length = count :=
  (length_slice_of_inRange ⟨Nat.le_add_right start count, within⟩).trans
    (Nat.add_sub_cancel_left start count)

/-- Bytes are split off behind `start` exactly if they are all there. -/
theorem Bytes.splitExactly_drop {bytes : Bytes} {start : Nat} (within : start ≤ bytes.length)
    (count : Nat) :
    splitExactly count (bytes.drop start) =
      if bytes.length < start + count then none
      else some (bytes.slice start (start + count), bytes.drop (start + count)) := by
  by_cases large : bytes.length < start + count
  · rw [if_pos large]
    cases split : splitExactly count (bytes.drop start) with
    | none => rfl
    | some parts =>
        rcases parts with ⟨front, rest⟩
        have size := length_rest_of_splitExactly split
        rw [List.length_drop] at size
        omega
  · rw [if_neg large, splitExactly_eq_some_iff]
    refine ⟨?_, length_slice_add (Nat.not_lt.1 large)⟩
    rw [slice, Nat.add_sub_cancel_left, ← List.drop_drop, List.take_append_drop]

namespace Guarded

variable {area : Bytes} {position : Nat}

/-- The DHCPv4 options from `position` on, which `padding` zero bytes precede. -/
def walk4 (area : Bytes) (padding position : Nat) : Guard Walk :=
  match _found : area[position]? with
  | none => .ok ⟨[], .exhausted padding⟩
  | some code =>
      if code = padCode then
        walk4 area (padding + 1) (position + 1)
      else if code = endCode then
        .ok ⟨[], .marker padding position⟩
      else
        match area[position + 1]? with
        | none => .ok ⟨[], .truncated position⟩
        | some length =>
            let start := position + 2
            let stop := start + length.toNat
            if area.length < stop then
              .ok ⟨[], .truncated position⟩
            else do
              let value ← slice area start stop
              let later ← walk4 area 0 stop
              return ⟨⟨padding, position, stop, code.toUInt16, value⟩ :: later.options,
                later.ending⟩
termination_by area.length - position
decreasing_by
  all_goals
    have inside := (List.getElem?_eq_some_iff.1 _found).1
    omega

theorem drop_of_getElem? {byte : UInt8} (found : area[position]? = some byte) :
    area.drop position = byte :: area.drop (position + 1) := by
  rcases List.getElem?_eq_some_iff.1 found with ⟨inside, same⟩
  rw [List.drop_eq_getElem_cons inside, same]

theorem drop_eq_cons (inside : position < area.length) :
    area.drop position = area.byteAt position :: area.drop (position + 1) := by
  have found := List.getElem?_eq_getElem inside
  rw [drop_of_getElem? found, Bytes.byteAt_of_getElem?_eq_some found]

theorem drop_of_getElem?_none (missing : area[position]? = none) : area.drop position = [] :=
  List.drop_eq_nil_of_le (List.getElem?_eq_none_iff.1 missing)

/-- The guards of the cursor hold wherever it stands. -/
theorem walk4_add_eq (area : Bytes) (padding offset : Nat) :
    walk4 area padding (offset + padding) =
      .ok (Framing.dhcp4.walkOf offset (Framing.read4 padding (area.drop (offset + padding)))) := by
  generalize here : offset + padding = position
  -- Reading on over padding keeps the offset where the reading began.
  fun_induction walk4 area padding position generalizing offset with
  | case1 padding position missing =>
      rw [drop_of_getElem?_none missing]
      rfl
  | case2 padding position found ih =>
      rw [drop_of_getElem? found]
      unfold Framing.read4
      rw [if_pos rfl]
      exact ih offset (by omega)
  | case3 padding position found =>
      subst here
      rw [drop_of_getElem? found]
      rfl
  | case4 padding position code found notPad notEnd missing =>
      subst here
      rw [drop_of_getElem? found, drop_of_getElem?_none missing]
      simp [Framing.read4, Framing.walkOf, notPad, notEnd]
  | case5 padding position code found notPad notEnd length measured start stop large =>
      subst here
      have inside := (List.getElem?_eq_some_iff.1 measured).1
      have split := Bytes.splitExactly_drop (Nat.succ_le_of_lt inside) length.toNat
      rw [if_pos (show area.length < _ from large)] at split
      rw [drop_of_getElem? found, drop_of_getElem? measured, Framing.read4, if_neg notPad,
        if_neg notEnd]
      simp only [split]
      rfl
  | case6 padding position code found notPad notEnd length measured start stop fits ih =>
      subst here
      have inside := (List.getElem?_eq_some_iff.1 measured).1
      have within : stop ≤ area.length := Nat.not_lt.1 fits
      have split := Bytes.splitExactly_drop (Nat.succ_le_of_lt inside) length.toNat
      rw [if_neg (show ¬ area.length < _ from fits)] at split
      have size : (area.slice start stop).length = length.toNat := Bytes.length_slice_add within
      have behind : walk4 area 0 stop = .ok (Framing.dhcp4.walkFrom stop (area.drop stop)) := by
        rw [Framing.walkFrom_eq_walkOf]
        exact ih stop rfl
      rw [slice_eq (Nat.le_add_right _ _) within, ok_bind, behind, ok_bind,
        drop_of_getElem? found, drop_of_getElem? measured, Framing.read4, if_neg notPad,
        if_neg notEnd]
      simp only [split]
      change _ = Except.ok (Framing.walkOf _ _ (.option padding _ (area.slice start stop) _))
      simp only [Framing.walkOf, size]
      rfl

theorem walk4_eq (area : Bytes) : walk4 area 0 0 = .ok (Framing.dhcp4.walk area) := by
  rw [Framing.walk, Framing.walkFrom_eq_walkOf]
  exact walk4_add_eq area 0 0

/-- The DHCPv6 options from `position` on. -/
def walk6 (area : Bytes) (position : Nat) : Guard Walk :=
  if _left : area.length ≤ position then
    .ok ⟨[], .exhausted 0⟩
  else if area.length < position + 4 then
    .ok ⟨[], .truncated position⟩
  else do
    let code ← word16 area position
    let length ← word16 area (position + 2)
    let start := position + 4
    let stop := start + length.toNat
    if area.length < stop then
      .ok ⟨[], .truncated position⟩
    else do
      let value ← slice area start stop
      let later ← walk6 area stop
      return ⟨⟨0, position, stop, code, value⟩ :: later.options, later.ending⟩
termination_by area.length - position

theorem walk6_drop_eq (area : Bytes) (position : Nat) :
    walk6 area position = .ok (Framing.dhcp6.walkFrom position (area.drop position)) := by
  fun_induction walk6 area position with
  | case1 position left =>
      rw [List.drop_eq_nil_of_le left, Framing.walkFrom_eq_walkOf]
      rfl
  | case2 position remains short =>
      have size : (area.drop position).length = area.length - position := List.length_drop
      rw [Framing.walkFrom_eq_walkOf]
      cases rest : area.drop position with
      | nil =>
          simp [rest] at size
          omega
      | cons first rest1 =>
          rcases rest1 with _ | ⟨second, _ | ⟨third, _ | ⟨fourth, others⟩⟩⟩
          · rfl
          · rfl
          · rfl
          · simp [rest] at size
            omega
  | case3 position remains header ih =>
      have room : position + 4 ≤ area.length := Nat.not_lt.1 header
      have front : area.drop position = area.byteAt position :: area.byteAt (position + 1) ::
          area.byteAt (position + 2) :: area.byteAt (position + 3) :: area.drop (position + 4) := by
        rw [drop_eq_cons (by omega), drop_eq_cons (by omega), drop_eq_cons (by omega),
          drop_eq_cons (by omega)]
      rw [word16_eq (by omega), word16_eq (by omega), ok_bind, ok_bind,
        Framing.walkFrom_eq_walkOf, front]
      generalize measured : area.word16At (position + 2) = length
      have word : Bytes.word16 (area.byteAt (position + 2)) (area.byteAt (position + 3)) = length :=
        measured
      simp only [Framing.read, Framing.read6, word, Bytes.splitExactly_drop room]
      by_cases large : area.length < position + 4 + length.toNat
      · rw [if_pos large, if_pos large]
        rfl
      · have within : position + 4 + length.toNat ≤ area.length := Nat.not_lt.1 large
        have size := Bytes.length_slice_add within
        rw [if_neg large, if_neg large, slice_eq (Nat.le_add_right _ _) within, ok_bind,
          ih length large, ok_bind]
        simp only [Framing.walkOf, size]
        rfl

end Guarded

end DhcpRelay
