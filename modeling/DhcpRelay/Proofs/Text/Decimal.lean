import DhcpRelay.Text.Decimal
import Mathlib.Data.List.Basic
import Mathlib.Data.List.Induction

/-!
# Which texts are read as a number

A number has one text without leading zeros.  What is read as the number is that text behind any
count of zeros, with or without a plus sign in front, and nothing else.
-/

namespace DhcpRelay.Decimal

variable {value : Nat} {char : Char} {chars : List Char}

/-! ## Single digits -/

theorem digitValue?_eq_some_iff {next : Nat} :
    digitValue? char = some next ↔ next < 10 ∧ char = digit next := by
  constructor
  · intro read
    rw [digitValue?] at read
    split at read
    · rename_i inRange
      simp only [Option.some.injEq] at read
      refine ⟨by omega, ?_⟩
      rw [digit, ← read, Nat.add_sub_cancel' inRange.1, Char.ofNat_toNat]
    · cases read
  · rintro ⟨small, rfl⟩
    exact digitValue?_digit small

/-- A rule for the ten digits holds for every character of a written number. -/
theorem forall_mem_digits {rule : Char → Prop} (each : ∀ next < 10, rule (digit next)) :
    ∀ char ∈ digits value, rule char := by
  induction value using digits.induct with
  | case1 value small =>
      rw [digits, if_pos small]
      simpa using each value small
  | case2 value large ih =>
      rw [digits, if_neg large, List.forall_mem_append]
      exact ⟨ih, by simpa using each (value % 10) (Nat.mod_lt value (by decide))⟩

/-! ## The digits of a number -/

theorem digits_of_lt (small : value < 10) : digits value = [digit value] := by
  rw [digits, if_pos small]

theorem digits_append {next : Nat} (positive : 0 < value) (small : next < 10) :
    digits value ++ [digit next] = digits (value * 10 + next) := by
  rw [digits.eq_1 (value * 10 + next), if_neg (by omega),
    show (value * 10 + next) / 10 = value by omega, show (value * 10 + next) % 10 = next by omega]

theorem digits_ne_nil (value : Nat) : digits value ≠ [] := by
  rw [digits]
  split
  · exact List.cons_ne_nil _ _
  · exact List.append_ne_nil_of_right_ne_nil _ (List.cons_ne_nil _ _)

theorem length_digits_pos (value : Nat) : 0 < (digits value).length :=
  List.length_pos_iff.2 (digits_ne_nil value)

/-- The first digits of a number are the digits of a number. -/
theorem exists_digits_of_prefix {front : List Char} (filled : front ≠ [])
    (begins : front <+: digits value) : ∃ first ≤ value, digits first = front := by
  induction value using digits.induct with
  | case1 value small =>
      rw [digits_of_lt small] at begins
      rcases List.prefix_cons_iff.1 begins with rfl | ⟨rest, rfl, nothing⟩
      · exact absurd rfl filled
      · rw [List.prefix_nil.1 nothing]
        exact ⟨value, Nat.le_refl value, digits_of_lt small⟩
  | case2 value large ih =>
      rw [digits, if_neg large] at begins
      rcases List.prefix_concat_iff.1 begins with rfl | shorter
      · exact ⟨value, Nat.le_refl value, by rw [digits.eq_1 value, if_neg large]⟩
      · rcases ih shorter with ⟨first, bounded, written⟩
        exact ⟨first, Nat.le_trans bounded (Nat.div_le_self value 10), written⟩

theorem length_digits_le_succ (value : Nat) :
    (digits value).length ≤ (digits (value / 10)).length + 1 := by
  rw [digits.eq_1 value]
  split
  · exact Nat.le_add_left 1 _
  · exact Nat.le_of_eq List.length_append

theorem length_digits_le_three (small : value < 1000) : (digits value).length ≤ 3 := by
  have single : digits (value / 10 / 10) = [digit (value / 10 / 10)] := digits_of_lt (by omega)
  have one : (digits (value / 10 / 10)).length = 1 := congrArg List.length single
  have two := length_digits_le_succ (value / 10)
  have three := length_digits_le_succ value
  omega

/-- Only the number zero is written with a zero in front. -/
theorem eq_zero_of_head?_digits (zero : (digits value).head? = some '0') : value = 0 := by
  induction value using digits.induct with
  | case1 value small =>
      rw [digits_of_lt small, List.head?_cons, Option.some.injEq] at zero
      have read := digitValue?_digit small
      rw [zero] at read
      exact (Option.some.inj read).symm
  | case2 value large ih =>
      rw [digits, if_neg large, List.head?_append_of_ne_nil _ (digits_ne_nil _)] at zero
      have := ih zero
      omega

/-! ## Reading -/

theorem readDigits_concat (value : Nat) (front : List Char) (char : Char) :
    readDigits value (front ++ [char]) =
      (readDigits value front).bind fun first => (digitValue? char).map (first * 10 + ·) := by
  rw [readDigits_append]
  congr 1
  funext first
  rw [readDigits]
  cases digitValue? char <;> rfl

theorem readDigits_digits (value : Nat) : readDigits 0 (digits value) = some value := by
  induction value using digits.induct with
  | case1 value small =>
      rw [digits_of_lt small]
      simp [readDigits, digitValue?_digit small]
  | case2 value large ih =>
      rw [digits, if_neg large, readDigits_concat, ih,
        digitValue?_digit (Nat.mod_lt value (by decide)), Option.bind_some, Option.map_some]
      congr 1
      omega

/-- The characters are the digits of a number, with or without zeros in front. -/
def IsPadded (value : Nat) (chars : List Char) : Prop :=
  ∃ zeros, chars = List.replicate zeros '0' ++ digits value

theorem isPadded_digits (value : Nat) : IsPadded value (digits value) :=
  ⟨0, rfl⟩

theorem IsPadded.ne_nil (padded : IsPadded value chars) : chars ≠ [] := by
  rcases padded with ⟨zeros, rfl⟩
  exact List.append_ne_nil_of_right_ne_nil _ (digits_ne_nil value)

/-- There are no characters but digits in a number. -/
theorem IsPadded.not_mem (padded : IsPadded value chars)
    (other : ∀ next < 10, digit next ≠ char) : char ∉ chars := by
  rcases padded with ⟨zeros, rfl⟩
  have digital : ∀ found ∈ digits value, found ≠ char := forall_mem_digits other
  rw [List.mem_append, not_or]
  refine ⟨fun zero => ?_, fun member => digital char member rfl⟩
  exact other 0 (by decide) (List.eq_of_mem_replicate zero).symm

theorem not_mem_digits (other : ∀ next < 10, digit next ≠ char) : char ∉ digits value :=
  (isPadded_digits value).not_mem other

/-- One more digit behind a number with zeros in front. -/
theorem IsPadded.concat {next : Nat} (padded : IsPadded value chars) (small : next < 10) :
    IsPadded (value * 10 + next) (chars ++ [digit next]) := by
  rcases padded with ⟨zeros, rfl⟩
  rcases Nat.eq_zero_or_pos value with rfl | positive
  · -- The zero that was the whole number is now one of those in front.
    refine ⟨zeros + 1, ?_⟩
    rw [Nat.zero_mul, Nat.zero_add, digits_of_lt small, List.replicate_succ',
      digits_of_lt (by decide)]
    rfl
  · refine ⟨zeros, ?_⟩
    rw [List.append_assoc, digits_append positive small]

theorem isPadded_of_readDigits (filled : chars ≠ []) (read : readDigits 0 chars = some value) :
    IsPadded value chars := by
  induction chars using List.reverseRecOn generalizing value with
  | nil => exact absurd rfl filled
  | append_singleton front char ih =>
      rw [readDigits_concat, Option.bind_eq_some_iff] at read
      rcases read with ⟨first, readFront, last⟩
      rcases Option.map_eq_some_iff.1 last with ⟨next, isDigit, rfl⟩
      rcases digitValue?_eq_some_iff.1 isDigit with ⟨small, rfl⟩
      by_cases alone : front = []
      · subst alone
        cases readFront
        rw [List.nil_append, Nat.zero_mul, Nat.zero_add, ← digits_of_lt small]
        exact isPadded_digits next
      · exact (ih alone readFront).concat small

theorem readDigits_of_isPadded (padded : IsPadded value chars) :
    readDigits 0 chars = some value := by
  rcases padded with ⟨zeros, rfl⟩
  have nothing : readDigits 0 (List.replicate zeros '0') = some 0 := by
    induction zeros with
    | zero => rfl
    | succ zeros ih => exact ih
  rw [readDigits_append, nothing, Option.bind_some, readDigits_digits]

theorem readUnsigned_eq_some_iff : readUnsigned chars = some value ↔ IsPadded value chars := by
  constructor
  · intro read
    cases chars with
    | nil => cases read
    | cons char rest => exact isPadded_of_readDigits (List.cons_ne_nil char rest) read
  · intro padded
    rw [← readDigits_of_isPadded padded]
    cases chars with
    | nil => exact absurd rfl padded.ne_nil
    | cons char rest => rfl

/-- The characters are a number that may have a plus sign in front. -/
inductive IsNumeral (value : Nat) : List Char → Prop where
  | plain {chars : List Char} (padded : IsPadded value chars) : IsNumeral value chars
  | signed {chars : List Char} (padded : IsPadded value chars) : IsNumeral value ('+' :: chars)

theorem isNumeral_text (value : Nat) : IsNumeral value (text value).toList := by
  rw [text, String.toList_ofList]
  exact .plain (isPadded_digits value)

theorem IsNumeral.not_mem (numeral : IsNumeral value chars) (noSign : char ≠ '+')
    (other : ∀ next < 10, digit next ≠ char) : char ∉ chars := by
  cases numeral with
  | plain padded => exact padded.not_mem other
  | signed padded =>
      rw [List.mem_cons, not_or]
      exact ⟨noSign, padded.not_mem other⟩

theorem read_eq_some_iff : read chars = some value ↔ IsNumeral value chars := by
  constructor
  · intro done
    rw [read.eq_def] at done
    split at done
    · exact .signed (readUnsigned_eq_some_iff.1 done)
    · exact .plain (readUnsigned_eq_some_iff.1 done)
  · intro numeral
    cases numeral with
    | signed padded => exact readUnsigned_eq_some_iff.2 padded
    | plain padded =>
        have noSign : '+' ∉ chars := padded.not_mem (by decide)
        rw [read.eq_def]
        split
        · exact absurd List.mem_cons_self noSign
        · exact readUnsigned_eq_some_iff.2 padded

theorem readWord16_eq_some_iff {written : String} {word : UInt16} :
    readWord16 written = some word ↔ IsNumeral word.toNat written.toList := by
  rw [readWord16, readUpTo, Option.map_eq_some_iff]
  simp only [Option.filter_eq_some_iff, decide_eq_true_eq, read_eq_some_iff]
  constructor
  · rintro ⟨value, ⟨numeral, small⟩, rfl⟩
    rwa [UInt16.toNat_ofNat_of_lt' (Nat.lt_succ_of_le small)]
  · intro numeral
    exact ⟨word.toNat, ⟨numeral, Nat.le_of_lt_succ word.toNat_lt⟩, UInt16.ofNat_toNat⟩

end DhcpRelay.Decimal
