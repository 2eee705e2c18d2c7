/-!
# Decimal numbers

`digits` writes a number without leading zeros.  `read` accepts what it writes
and also leading zeros and one plus sign; blanks, minus signs and separators
are refused.  Readers of fixed-width fields give the largest value they accept.
-/

namespace DhcpRelay.Decimal

/-- The character of a digit below ten. -/
def digit (value : Nat) : Char :=
  Char.ofNat (48 + value)

/-- The value of an ASCII decimal digit. -/
def digitValue? (char : Char) : Option Nat :=
  if 48 ≤ char.toNat ∧ char.toNat ≤ 57 then some (char.toNat - 48) else none

/-- The decimal digits of a number. -/
def digits (value : Nat) : List Char :=
  if value < 10 then [digit value] else digits (value / 10) ++ [digit (value % 10)]

/-- The decimal text of a number. -/
def text (value : Nat) : String :=
  String.ofList (digits value)

/-- Read digits behind a number that was read so far. -/
def readDigits : Nat → List Char → Option Nat
  | value, [] => some value
  | value, char :: rest => do
      let next ← digitValue? char
      readDigits (value * 10 + next) rest

/-- Read one digit or more. -/
def readUnsigned : List Char → Option Nat
  | [] => none
  | chars => readDigits 0 chars

/-- Read one digit or more, with an optional plus sign in front. -/
def read : List Char → Option Nat
  | '+' :: rest => readUnsigned rest
  | chars => readUnsigned chars

/-- Read a number of at most `largest`. -/
def readUpTo (largest : Nat) (chars : List Char) : Option Nat :=
  (read chars).filter (· ≤ largest)

/-- Read a sixteen-bit number. -/
def readWord16 (written : String) : Option UInt16 :=
  (readUpTo 65535 written.toList).map UInt16.ofNat

theorem digitValue?_digit {value : Nat} (small : value < 10) :
    digitValue? (digit value) = some value := by
  rcases value with _ | _ | _ | _ | _ | _ | _ | _ | _ | _ | value
  all_goals first | rfl | omega

theorem readDigits_append (value : Nat) (front rest : List Char) :
    readDigits value (front ++ rest) = (readDigits value front).bind (readDigits · rest) := by
  induction front generalizing value with
  | nil => rfl
  | cons char front ih =>
      simp only [List.cons_append, readDigits]
      cases digitValue? char with
      | none => rfl
      | some next => exact ih _

end DhcpRelay.Decimal
