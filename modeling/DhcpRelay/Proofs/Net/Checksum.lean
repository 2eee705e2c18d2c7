import DhcpRelay.Net.Checksum

/-!
# Sums with end-around carry

Folding takes nothing but multiples of all ones off a sum, and leaves zero for zero alone.
Two rounds bring the sum of any datagram down to sixteen bits.  So bytes are valid exactly
if the plain sum of their words is a positive multiple of all ones.
-/

namespace DhcpRelay.Checksum

variable {bytes front : Bytes}

/-! ## The plain sum -/

/-- Words are not torn apart by what stands in front. -/
theorem wordSum_append (even : front.length % 2 = 0) (back : Bytes) :
    wordSum (front ++ back) = wordSum front + wordSum back := by
  fun_induction wordSum front with
  | case1 => rw [List.nil_append, Nat.zero_add]
  | case2 last => simp at even
  | case3 high low rest ih =>
      rw [List.length_cons, List.length_cons] at even
      rw [List.cons_append, List.cons_append, wordSum, ih (by omega)]
      omega

theorem wordSum_le (bytes : Bytes) : wordSum bytes ≤ (bytes.length + 1) / 2 * 65535 := by
  fun_induction wordSum bytes with
  | case1 => exact Nat.zero_le _
  | case2 last =>
      have bound := last.toNat_lt
      rw [List.length_singleton]
      omega
  | case3 high low rest ih =>
      have highBound := high.toNat_lt
      have lowBound := low.toNat_lt
      rw [List.length_cons, List.length_cons]
      omega

/-- A word adds its value. -/
theorem wordSum_ofWord16_append (word : UInt16) (back : Bytes) :
    wordSum (Bytes.ofWord16 word ++ back) = word.toNat + wordSum back := by
  have bound := word.toNat_lt
  simp only [Bytes.ofWord16, List.cons_append, List.nil_append, wordSum, UInt8.toNat_ofNat']
  omega

/-- A field adds its value to the sum of the bytes in which it is zero. -/
theorem wordSum_field (even : front.length % 2 = 0) (word : UInt16) (back : Bytes) :
    wordSum (front ++ (Bytes.ofWord16 word ++ back)) =
      wordSum (front ++ (Bytes.ofWord16 0 ++ back)) + word.toNat := by
  have zero : (0 : UInt16).toNat = 0 := rfl
  rw [wordSum_append even, wordSum_append even, wordSum_ofWord16_append,
    wordSum_ofWord16_append, zero]
  omega

/-! ## Folding -/

theorem fold_mod (sum : Nat) : fold sum % 65535 = sum % 65535 := by
  rw [fold, foldOnce, foldOnce]
  omega

theorem fold_eq_zero_iff {sum : Nat} : fold sum = 0 ↔ sum = 0 := by
  rw [fold, foldOnce, foldOnce]
  omega

theorem fold_le {sum : Nat} (bounded : sum < 4294967296) : fold sum ≤ 65535 := by
  rw [fold, foldOnce, foldOnce]
  omega

/-- Bytes whose sum takes two rounds of folding at most. -/
def IsShort (bytes : Bytes) : Prop :=
  bytes.length < 131072

theorem sum_le (short : IsShort bytes) : sum bytes ≤ 65535 := by
  have bound := wordSum_le bytes
  rw [IsShort] at short
  exact fold_le (by omega)

/-- The sum of words to which nothing has to be added. -/
def IsFull (sum : Nat) : Prop :=
  0 < sum ∧ sum % 65535 = 0

theorem isValid_iff (short : IsShort bytes) : isValid bytes = true ↔ IsFull (wordSum bytes) := by
  have bound := sum_le short
  have same : sum bytes % 65535 = wordSum bytes % 65535 := fold_mod (wordSum bytes)
  have zero : sum bytes = 0 ↔ wordSum bytes = 0 := fold_eq_zero_iff
  rw [isValid, beq_iff_eq, IsFull, allOnes]
  omega

/-! ## The complement -/

theorem toNat_complement (short : IsShort bytes) :
    (complement bytes).toNat = 65535 - sum bytes := by
  have bound := sum_le short
  rw [complement, allOnes, UInt16.toNat_ofNat_of_lt' (by change _ < 65536; omega)]

/-- The complement is what the sum lacks. -/
theorem isFull_add_complement (short : IsShort bytes) :
    IsFull (wordSum bytes + (complement bytes).toNat) := by
  have bound := sum_le short
  have same : sum bytes % 65535 = wordSum bytes % 65535 := fold_mod (wordSum bytes)
  have zero : sum bytes = 0 ↔ wordSum bytes = 0 := fold_eq_zero_iff
  rw [toNat_complement short, IsFull]
  omega

/-- All ones add nothing to a sum that is full. -/
theorem isFull_add_allOnes {sum : Nat} (full : IsFull sum) : IsFull (sum + allOnes) := by
  rcases full with ⟨positive, multiple⟩
  rw [IsFull, allOnes]
  omega

end DhcpRelay.Checksum
