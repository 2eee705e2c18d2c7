import DhcpRelay.Address.IPv6
import DhcpRelay.Proofs.Text.Decimal

/-!
# Texts of addresses

An IPv4 address is read from its text and from no other.  No text is read as an address of both
kinds, for only those of IPv6 addresses have a colon.
-/

namespace DhcpRelay

namespace IPv4

variable {written : List Char} {address : IPv4}

theorem readOctet_eq_some_iff {field : List Char} {octet : UInt8} :
    readOctet field = some octet ↔ field = Decimal.digits octet.toNat := by
  rw [readOctet]
  constructor
  · intro read
    split at read
    · rename_i short
      rcases Option.map_eq_some_iff.1 read with ⟨value, inRange, rfl⟩
      rw [Option.filter_eq_some_iff, Decimal.readUnsigned_eq_some_iff, decide_eq_true_eq]
        at inRange
      rcases inRange with ⟨⟨zeros, rfl⟩, small⟩
      rw [UInt8.toNat_ofNat_of_lt' (Nat.lt_succ_of_le small)]
      cases zeros with
      | zero => rfl
      | succ zeros =>
          -- A zero in front would be the whole field, and there are digits behind it.
          have alone := congrArg List.length (short.2 rfl)
          have digits := Decimal.length_digits_pos value
          simp only [List.length_append, List.length_replicate, List.length_singleton] at alone
          omega
    · cases read
  · rintro rfl
    have small : octet.toNat < 256 := octet.toNat_lt
    have short : (Decimal.digits octet.toNat).length ≤ 3 :=
      Decimal.length_digits_le_three (Nat.lt_trans small (by decide))
    have plain : (Decimal.digits octet.toNat).head? = some '0' →
        Decimal.digits octet.toNat = ['0'] := by
      intro zero
      rw [Decimal.eq_zero_of_head?_digits zero]
      exact Decimal.digits_of_lt (by decide)
    rw [if_pos ⟨short, plain⟩, Decimal.readUnsigned_eq_some_iff.2 (Decimal.isPadded_digits _),
      Option.filter_some, decide_eq_true (Nat.le_of_lt_succ small), if_pos rfl, Option.map_some,
      UInt8.ofNat_toNat]

/-- The four fields of an address. -/
def fields (address : IPv4) : List (List Char) :=
  address.octets.map fun octet => Decimal.digits octet.toNat

theorem chars_eq_intercalate (address : IPv4) : address.chars = ['.'].intercalate address.fields := by
  simp [chars, fields, octets, List.intercalate, List.intersperse]

theorem splitOn_chars (address : IPv4) : address.chars.splitOn '.' = address.fields := by
  rw [chars_eq_intercalate]
  refine List.splitOn_intercalate '.' (fun field member => ?_) (List.cons_ne_nil _ _)
  rcases List.mem_map.1 member with ⟨octet, _, rfl⟩
  exact Decimal.not_mem_digits (by decide)

/-- An address has one text. -/
theorem readChars_eq_some_iff : readChars written = some address ↔ written = address.chars := by
  constructor
  · intro read
    rw [readChars] at read
    split at read
    · rename_i split
      simp only [bind, pure, Option.bind_eq_some_iff, Option.some.injEq, readOctet_eq_some_iff]
        at read
      rcases read with ⟨first, rfl, second, rfl, third, rfl, fourth, rfl, rfl⟩
      have joined : ['.'].intercalate (written.splitOn '.') = written :=
        List.intercalate_splitOn '.'
      rw [← joined, split, chars_eq_intercalate]
      rfl
    · cases read
  · rintro rfl
    have first := readOctet_eq_some_iff.2 (rfl : Decimal.digits address.first.toNat = _)
    have second := readOctet_eq_some_iff.2 (rfl : Decimal.digits address.second.toNat = _)
    have third := readOctet_eq_some_iff.2 (rfl : Decimal.digits address.third.toNat = _)
    have fourth := readOctet_eq_some_iff.2 (rfl : Decimal.digits address.fourth.toNat = _)
    rw [readChars, splitOn_chars, fields, octets]
    simp only [List.map_cons, List.map_nil, first, second, third, fourth]
    rfl

theorem colon_not_mem_chars (address : IPv4) : ':' ∉ address.chars := by
  have noColon (value : Nat) : ':' ∉ Decimal.digits value := Decimal.not_mem_digits (by decide)
  simp [chars, noColon]

end IPv4

namespace IPv6

variable {written : List Char} {address : IPv6}

theorem splitElision_eq_none (noColon : ':' ∉ written) : splitElision written = none := by
  induction written with
  | nil => rfl
  | cons char rest ih =>
      rw [List.mem_cons, not_or] at noColon
      rw [splitElision, ih noColon.2]
      · rfl
      · rintro _ rfl
        exact absurd rfl noColon.1

theorem length_of_ofGroups? {groups : List Nat} (made : ofGroups? groups = some address) :
    groups.length = 8 := by
  rw [ofGroups?, ofOctets?] at made
  split at made
  · rename_i size
    simp only [List.length_flatMap, List.length_cons, List.length_nil, List.map_const',
      List.sum_replicate_nat] at size
    omega
  · cases made

/-- A field stands for one group, or for two if it is an IPv4 address. -/
theorem length_le_of_readFields {field : List Char} {groups : List Nat} {dotted : Bool}
    (read : readFields dotted [field] = some groups) : groups.length ≤ 2 := by
  rw [readFields] at read
  split at read
  · cases read
    exact Nat.le_succ 1
  · split at read
    · rcases Option.map_eq_some_iff.1 read with ⟨inner, _, rfl⟩
      exact Nat.le_refl 2
    · cases read

/-- Without a colon there are no more than two groups, and an address has eight. -/
theorem colon_mem_of_readChars (read : readChars written = some address) : ':' ∈ written := by
  by_contra noColon
  rw [readChars, splitElision_eq_none noColon] at read
  rcases Option.bind_eq_some_iff.1 read with ⟨groups, fields, made⟩
  have eight := length_of_ofGroups? made
  rw [readGroups] at fields
  split at fields
  · cases fields
    cases eight
  · rw [List.splitOn_eq_singleton noColon] at fields
    have two := length_le_of_readFields fields
    omega

end IPv6

end DhcpRelay
