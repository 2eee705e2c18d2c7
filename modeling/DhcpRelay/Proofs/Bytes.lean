import DhcpRelay.Bytes

/-!
# Single bytes, words and zero bytes at the end

A byte that is read is the one at its index, or zero behind the end.  Words that are
written are read back.
`Bytes.trimZeros` cuts exactly the run of zero bytes at the end: what it keeps
does not end in zero, and zeros put back behind it give the bytes again.
-/

namespace DhcpRelay.Bytes

theorem byteAt_of_getElem?_eq_some {bytes : Bytes} {index : Nat} {byte : UInt8}
    (found : bytes[index]? = some byte) : bytes.byteAt index = byte := by
  rw [byteAt, List.getD_eq_getElem?_getD, found, Option.getD_some]

theorem byteAt_of_getElem?_eq {left right : Bytes} {index other : Nat}
    (same : left[index]? = right[other]?) : left.byteAt index = right.byteAt other := by
  rw [byteAt, byteAt, List.getD_eq_getElem?_getD, List.getD_eq_getElem?_getD, same]

theorem word16_ofNat (word : UInt16) :
    word16 (UInt8.ofNat (word.toNat / 256)) (UInt8.ofNat word.toNat) = word := by
  have bound := word.toNat_lt
  apply UInt16.toNat_inj.1
  simp only [word16, UInt16.toNat_ofNat', UInt8.toNat_ofNat']
  omega

theorem ofWord16_word16 (high low : UInt8) : ofWord16 (word16 high low) = [high, low] := by
  have bounds := And.intro high.toNat_lt low.toNat_lt
  have front : UInt8.ofNat ((word16 high low).toNat / 256) = high := by
    apply UInt8.toNat_inj.1
    simp only [word16, UInt16.toNat_ofNat', UInt8.toNat_ofNat']
    omega
  have back : UInt8.ofNat (word16 high low).toNat = low := by
    apply UInt8.toNat_inj.1
    simp only [word16, UInt16.toNat_ofNat', UInt8.toNat_ofNat']
    omega
  rw [ofWord16, front, back]

/-- Four bytes are two words. -/
theorem eq_words_append_drop {bytes : Bytes} (four : 4 ≤ bytes.length) :
    bytes = ofWord16 (bytes.word16At 0) ++ ofWord16 (bytes.word16At 2) ++ bytes.drop 4 := by
  rcases bytes with _ | ⟨first, _ | ⟨second, _ | ⟨third, _ | ⟨fourth, rest⟩⟩⟩⟩
  case cons.cons.cons.cons =>
    have front : ofWord16 (word16At (first :: second :: third :: fourth :: rest) 0) =
        [first, second] := ofWord16_word16 first second
    have back : ofWord16 (word16At (first :: second :: third :: fourth :: rest) 2) =
        [third, fourth] := ofWord16_word16 third fourth
    rw [front, back]
    rfl
  all_goals exact absurd four (by simp)

theorem eq_map_byteAt (bytes : Bytes) :
    bytes = (List.range bytes.length).map bytes.byteAt := by
  refine List.ext_getElem (by simp) fun index within _ => ?_
  rw [List.getElem_map, List.getElem_range]
  exact List.getElem_eq_getD 0

theorem splitExactly_eq_none_iff {count : Nat} {bytes : Bytes} :
    splitExactly count bytes = none ↔ bytes.length < count := by
  constructor
  · intro none
    refine Nat.not_le.1 fun enough => ?_
    have split := splitExactly_eq_some_iff.2
      ⟨(List.take_append_drop count bytes).symm, List.length_take_of_le enough⟩
    cases none.symm.trans split
  · intro short
    cases split : splitExactly count bytes with
    | none => rfl
    | some parts =>
        have size := length_rest_of_splitExactly split
        omega

theorem number_ofWord32 (word : UInt32) : number (ofWord32 word) = word.toNat := by
  have bound := word.toNat_lt
  simp only [number, ofWord32, List.foldl_cons, List.foldl_nil, UInt8.toNat_ofNat']
  omega

theorem ofWord32_ofNat_number {bytes : Bytes} (four : bytes.length = 4) :
    ofWord32 (UInt32.ofNat (number bytes)) = bytes := by
  rcases bytes with _ | ⟨first, _ | ⟨second, _ | ⟨third, _ | ⟨fourth, _ | ⟨fifth, rest⟩⟩⟩⟩⟩
  case cons.cons.cons.cons.nil =>
    have bounds := And.intro (And.intro first.toNat_lt second.toNat_lt)
      (And.intro third.toNat_lt fourth.toNat_lt)
    simp only [ofWord32, number, List.foldl_cons, List.foldl_nil, List.cons.injEq, and_true,
      ← UInt8.toNat_inj, UInt8.toNat_ofNat', UInt32.toNat_ofNat']
    omega
  all_goals simp at four

@[simp] theorem trimZeros_nil : trimZeros [] = [] := rfl

theorem trimZeros_cons (byte : UInt8) (rest : Bytes) :
    trimZeros (byte :: rest) =
      if byte = 0 ∧ trimZeros rest = [] then [] else byte :: trimZeros rest := rfl

@[simp] theorem trimZeros_replicate (count : Nat) : trimZeros (List.replicate count 0) = [] := by
  induction count with
  | zero => rfl
  | succ count ih => rw [List.replicate_succ, trimZeros_cons, if_pos ⟨rfl, ih⟩]

@[simp] theorem trimZeros_append_replicate (bytes : Bytes) (count : Nat) :
    trimZeros (bytes ++ List.replicate count 0) = trimZeros bytes := by
  induction bytes with
  | nil => simp
  | cons byte rest ih => rw [List.cons_append, trimZeros_cons, trimZeros_cons, ih]

theorem trimZeros_append_of_ne_nil (front : Bytes) {back : Bytes} (kept : trimZeros back ≠ []) :
    trimZeros (front ++ back) = front ++ trimZeros back := by
  induction front with
  | nil => rfl
  | cons byte rest ih =>
      rw [List.cons_append, trimZeros_cons, ih, if_neg, List.cons_append]
      intro both
      rcases both with ⟨_, empty⟩
      exact kept (List.append_eq_nil_iff.1 empty).2

theorem trimZeros_ne_nil {byte : UInt8} (nonzero : byte ≠ 0) (rest : Bytes) :
    trimZeros (byte :: rest) ≠ [] := by
  rw [trimZeros_cons, if_neg fun both => nonzero both.1]
  exact List.cons_ne_nil _ _

theorem exists_append_replicate_of_trimZeros (bytes : Bytes) :
    ∃ count, bytes = trimZeros bytes ++ List.replicate count 0 := by
  induction bytes with
  | nil => exact ⟨0, rfl⟩
  | cons byte rest ih =>
      rcases ih with ⟨count, equal⟩
      by_cases zero : byte = 0 ∧ trimZeros rest = []
      · refine ⟨count + 1, ?_⟩
        rw [zero.2, List.nil_append] at equal
        rw [trimZeros_cons, if_pos zero, zero.1, equal]
        rfl
      · refine ⟨count, ?_⟩
        rw [trimZeros_cons, if_neg zero, List.cons_append, ← equal]

theorem getLast?_trimZeros (bytes : Bytes) : (trimZeros bytes).getLast? ≠ some 0 := by
  induction bytes with
  | nil => simp
  | cons byte rest ih =>
      rw [trimZeros_cons]
      split
      · simp
      · rename_i kept
        rw [List.getLast?_cons]
        cases last : (trimZeros rest).getLast? with
        | none =>
            have empty : trimZeros rest = [] := List.getLast?_eq_none_iff.1 last
            simpa using fun zero => kept ⟨zero, empty⟩
        | some found => simpa [last] using ih

theorem trimZeros_eq_self {bytes : Bytes} (visible : bytes.getLast? ≠ some 0) :
    trimZeros bytes = bytes := by
  rcases exists_append_replicate_of_trimZeros bytes with ⟨count, equal⟩
  cases count with
  | zero => simpa using equal.symm
  | succ count =>
      refine absurd ?_ visible
      rw [equal, List.replicate_succ', ← List.append_assoc]
      simp

theorem length_trimZeros_le (bytes : Bytes) : (trimZeros bytes).length ≤ bytes.length := by
  rcases exists_append_replicate_of_trimZeros bytes with ⟨count, equal⟩
  have lengths := congrArg List.length equal
  rw [List.length_append] at lengths
  omega

theorem length_padTo (bytes : Bytes) (size : Nat) :
    (bytes.padTo size).length = max size bytes.length := by
  rw [padTo, List.length_append, List.length_replicate]
  omega

end DhcpRelay.Bytes
