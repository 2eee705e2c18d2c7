/-!
# Ranges of character codes
-/

namespace DhcpRelay.Text

/-- The code of a character lies in one of these ranges, ends included. -/
def isWithin (ranges : List (Nat × Nat)) (char : Char) : Bool :=
  ranges.any fun (first, last) => first ≤ char.toNat && char.toNat ≤ last

end DhcpRelay.Text
