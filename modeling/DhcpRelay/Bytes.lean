/-!
# Byte strings

Messages are lists of bytes, so that readers recurse on them and writers append
to them.  Words are written most significant byte first.
-/

namespace DhcpRelay

/-- The content of a message or of a part of one. -/
abbrev Bytes := List UInt8

namespace Bytes

/-- The sixteen-bit word with these two bytes. -/
def word16 (high low : UInt8) : UInt16 :=
  UInt16.ofNat (high.toNat * 256 + low.toNat)

/-- The number written by any count of bytes. -/
def number (bytes : Bytes) : Nat :=
  bytes.foldl (fun value byte => value * 256 + byte.toNat) 0

/-- The two bytes of a word. -/
def ofWord16 (word : UInt16) : Bytes :=
  [UInt8.ofNat (word.toNat / 256), UInt8.ofNat word.toNat]

/-- The four bytes of a word. -/
def ofWord32 (word : UInt32) : Bytes :=
  [UInt8.ofNat (word.toNat / 16777216), UInt8.ofNat (word.toNat / 65536),
    UInt8.ofNat (word.toNat / 256), UInt8.ofNat word.toNat]

/-- The byte at `index`, zero past the end. -/
def byteAt (bytes : Bytes) (index : Nat) : UInt8 :=
  bytes.getD index 0

/-- The sixteen-bit word at `index`. -/
def word16At (bytes : Bytes) (index : Nat) : UInt16 :=
  word16 (bytes.byteAt index) (bytes.byteAt (index + 1))

/-- The thirty-two-bit word at `index`. -/
def word32At (bytes : Bytes) (index : Nat) : UInt32 :=
  UInt32.ofNat (number ((bytes.drop index).take 4))

/-- The bytes from `start` up to, not including, `stop`. -/
def slice (bytes : Bytes) (start stop : Nat) : Bytes :=
  (bytes.drop start).take (stop - start)

/-- A slice whose bounds lie within the bytes, in order. -/
def InRange (bytes : Bytes) (start stop : Nat) : Prop :=
  start ≤ stop ∧ stop ≤ bytes.length

instance (bytes : Bytes) (start stop : Nat) : Decidable (bytes.InRange start stop) :=
  inferInstanceAs (Decidable (_ ∧ _))

theorem length_slice_of_inRange {bytes : Bytes} {start stop : Nat}
    (bounds : bytes.InRange start stop) :
    (bytes.slice start stop).length = stop - start := by
  obtain ⟨ordered, within⟩ := bounds
  simp only [slice, List.length_take, List.length_drop]
  omega

/-- The first `count` bytes and the rest, if there are that many. -/
def splitExactly : Nat → Bytes → Option (Bytes × Bytes)
  | 0, rest => some ([], rest)
  | _ + 1, [] => none
  | count + 1, byte :: rest =>
      (splitExactly count rest).map fun (front, rest) => (byte :: front, rest)

theorem splitExactly_eq_some_iff {count : Nat} {bytes front rest : Bytes} :
    splitExactly count bytes = some (front, rest) ↔
      bytes = front ++ rest ∧ front.length = count := by
  induction count generalizing bytes front with
  | zero =>
      constructor
      · intro split
        simp only [splitExactly, Option.some.injEq, Prod.mk.injEq] at split
        obtain ⟨rfl, rfl⟩ := split
        simp
      · rintro ⟨rfl, empty⟩
        simp [splitExactly, List.length_eq_zero_iff.1 empty]
  | succ count ih =>
      cases bytes with
      | nil =>
          simp only [splitExactly, reduceCtorEq, false_iff, not_and]
          intro joined
          simp [(List.append_eq_nil_iff.1 joined.symm).1]
      | cons byte bytes =>
          constructor
          · intro split
            simp only [splitExactly, Option.map_eq_some_iff] at split
            obtain ⟨⟨head, tail⟩, inner, same⟩ := split
            simp only [Prod.mk.injEq] at same
            obtain ⟨rfl, rfl⟩ := same
            obtain ⟨rfl, rfl⟩ := ih.1 inner
            simp
          · rintro ⟨joined, size⟩
            cases front with
            | nil => simp at size
            | cons head tail =>
                simp only [List.cons_append, List.cons.injEq] at joined
                obtain ⟨rfl, rfl⟩ := joined
                have inner : splitExactly count (tail ++ rest) = some (tail, rest) :=
                  ih.2 ⟨rfl, by simpa using size⟩
                simp [splitExactly, inner]

/-- Fewer bytes remain after a part that is not empty was split off. -/
theorem length_rest_of_splitExactly {count : Nat} {bytes front rest : Bytes}
    (split : splitExactly count bytes = some (front, rest)) :
    rest.length + count = bytes.length := by
  obtain ⟨rfl, rfl⟩ := splitExactly_eq_some_iff.1 split
  simp [Nat.add_comm]

/-- Zero bytes added at the end until there are at least `size` bytes. -/
def padTo (bytes : Bytes) (size : Nat) : Bytes :=
  bytes ++ List.replicate (size - bytes.length) 0

/-- The bytes with all zero bytes at their end cut off. -/
def trimZeros (bytes : Bytes) : Bytes :=
  bytes.foldr (fun byte kept => if byte = 0 ∧ kept = [] then [] else byte :: kept) []

/-- The bytes with `part` written over those from `index` on. -/
def overwrite (bytes : Bytes) (index : Nat) (part : Bytes) : Bytes :=
  bytes.take index ++ part ++ bytes.drop (index + part.length)

end Bytes

end DhcpRelay
