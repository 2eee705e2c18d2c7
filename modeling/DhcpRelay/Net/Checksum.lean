import DhcpRelay.Bytes

/-!
# The Internet checksum

The bytes are added up as sixteen-bit words with end-around carry; an odd byte
at the end counts as the high half of a word.  A message whose checksum field
holds the complement of the sum adds up to all ones.
-/

namespace DhcpRelay.Checksum

/-- The plain sum of the words. -/
def wordSum : Bytes → Nat
  | [] => 0
  | [last] => last.toNat * 256
  | high :: low :: rest => high.toNat * 256 + low.toNat + wordSum rest

/-- Add the carry out of sixteen bits back in. -/
def foldOnce (sum : Nat) : Nat :=
  sum / 65536 + sum % 65536

/-- Add carries back in until sixteen bits are left.  Two rounds do so for the
sum of any datagram. -/
def fold (sum : Nat) : Nat :=
  foldOnce (foldOnce sum)

/-- The one's-complement sum. -/
def sum (bytes : Bytes) : Nat :=
  fold (wordSum bytes)

/-- The sum of bytes that include a correct checksum. -/
def allOnes : Nat := 65535

/-- What the checksum field holds for bytes whose field is zero. -/
def complement (bytes : Bytes) : UInt16 :=
  UInt16.ofNat (allOnes - sum bytes)

/-- The bytes include a correct checksum. -/
def isValid (bytes : Bytes) : Bool :=
  sum bytes == allOnes

end DhcpRelay.Checksum
