/-!
# Real numbers

A real number is written with an optional sign, as digits with an optional point among
them and an optional power of ten behind them, or as infinity or as no number, which
are named in letters of either case.
-/

namespace DhcpRelay.Real

/-- The text without the sign in front of it. -/
def unsigned : List Char → List Char
  | '+' :: rest => rest
  | '-' :: rest => rest
  | chars => chars

/-- The text is empty, or a power of ten: a mark, an optional sign and digits. -/
def isPower : List Char → Bool
  | [] => true
  | mark :: rest =>
      (mark == 'e' || mark == 'E') && unsigned rest != [] && (unsigned rest).all Char.isDigit

/-- The text is digits with an optional point among them, of which there is one at
least, and an optional power of ten. -/
def isFinite (chars : List Char) : Bool :=
  let whole := chars.takeWhile Char.isDigit
  match chars.drop whole.length with
  | '.' :: rest =>
      let fraction := rest.takeWhile Char.isDigit
      (whole != [] || fraction != []) && isPower (rest.drop fraction.length)
  | rest => whole != [] && isPower rest

/-- The names of what is not finite. -/
def names : List String := ["inf", "infinity", "nan"]

/-- The text is a real number. -/
def isReal (chars : List Char) : Bool :=
  isFinite (unsigned chars) ||
    names.contains (String.ofList ((unsigned chars).map Char.toLower))

end DhcpRelay.Real
