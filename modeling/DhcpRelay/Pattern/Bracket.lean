import DhcpRelay.Pattern.Atom

/-!
# Patterns: classes in brackets

A class lists characters, ranges of characters, named classes and classes in brackets.
Lists are joined by the operators of intersection, difference and symmetric difference,
of which each binds what is left of it.
-/

namespace DhcpRelay.Pattern

namespace Mode

/-- The next character that is no blank, across the number sign of one comment. -/
def next? (mode : Mode) (chars : List Char) : Option Char :=
  if mode.spaced then
    match chars.dropWhile Text.isBlank with
    | '#' :: rest => (rest.dropWhile Text.isBlank).head?
    | rest => rest.head?
  else
    chars.head?

end Mode

/-- A class that is being read. -/
structure Bracket where
  /-- The class has no members yet but hyphens, which stand for themselves. -/
  isOpening : Bool
  /-- How deeply what is left of the last operator is nested. -/
  left : Option Nat
  /-- How deeply the members since the last operator are nested. -/
  members : List Nat
  deriving DecidableEq, Repr

namespace Bracket

/-- A class without members. -/
def opening : Bracket := ⟨true, none, []⟩

/-- The class with a hyphen at its beginning. -/
def addHyphen (bracket : Bracket) : Bracket :=
  { bracket with members := 0 :: bracket.members }

/-- The class with a member. -/
def add (bracket : Bracket) (depth : Nat) : Bracket :=
  { bracket with isOpening := false, members := depth :: bracket.members }

/-- How deeply the members and the operators are nested. -/
def depth (bracket : Bracket) : Nat :=
  match bracket.left with
  | some left => depthBeside [left, depthBeside bracket.members]
  | none => depthBeside bracket.members

/-- The class with an operator. -/
def operate (bracket : Bracket) : Bracket :=
  ⟨false, some bracket.depth, []⟩

/-! ## Reading -/

/-- The text behind the opening bracket and the caret of a negated class.  Negated
classes hold bytes that are no characters. -/
def skipCaret (mode : Mode) (chars : List Char) : Option (List Char) :=
  match mode.skip chars with
  | '^' :: rest => if mode.bytewise then none else some rest
  | rest => some rest

/-- The names of classes. -/
def names : List String :=
  ["alnum", "alpha", "ascii", "blank", "cntrl", "digit", "graph", "lower", "print", "punct",
    "space", "upper", "word", "xdigit"]

/-- The text behind a name of a class, its colon and its bracket. -/
def skipName? (chars : List Char) : Option (List Char) :=
  let name := chars.takeWhile (· != ':')
  match chars.drop name.length with
  | ':' :: ']' :: rest => if names.contains (String.ofList name) then some rest else none
  | _ => none

/-- Read a named class behind its opening bracket: whether it is negated, and the text
behind it. -/
def readNamed? : List Char → Option (Bool × List Char)
  | ':' :: '^' :: rest => (skipName? rest).map (true, ·)
  | ':' :: rest => (skipName? rest).map (false, ·)
  | _ => none

/-- A named class is known. -/
def isKnownName (mode : Mode) (negated : Bool) : Bool :=
  if mode.bytewise then !negated else !mode.caseless

/-- The text behind an atom, or behind a range, which goes from a character to one
that is not before it. -/
def skipMember (mode : Mode) (chars : List Char) : Option (List Char) := do
  let (first, rest) ← Atom.readMember mode chars
  if first.isMember mode then
    match mode.skip rest with
    | '-' :: rest =>
        if (mode.next? rest).any fun next => next == ']' || next == '-' then
          some ('-' :: rest)
        else do
          let (last, rest) ← Atom.readMember mode (mode.skip rest)
          match first, last with
          | .literal first, .literal final =>
              if first ≤ final && last.isMember mode then some rest else none
          | _, _ => none
    | rest => some rest
  else
    none

/-- Read members up to the closing bracket: how deeply they are nested, and the text
behind the bracket.  The first argument bounds the steps. -/
def read : Nat → Mode → Bracket → List Char → Option (Nat × List Char)
  | 0, _, _, _ => none
  | fuel + 1, mode, bracket, chars =>
      match bracket.isOpening, mode.skip chars with
      | true, '-' :: rest =>
          if (Atom.literal '-').isMember mode then
            read fuel mode bracket.addHyphen rest
          else
            none
      | _, ']' :: rest =>
          if bracket.isOpening && bracket.members == [] then
            if (Atom.literal ']').isMember mode then read fuel mode (bracket.add 0) rest else none
          else
            some (bracket.depth, rest)
      | _, '&' :: '&' :: rest => read fuel mode bracket.operate rest
      | _, '-' :: '-' :: rest => read fuel mode bracket.operate rest
      | _, '~' :: '~' :: rest => read fuel mode bracket.operate rest
      | _, '[' :: rest =>
          match readNamed? rest with
          | some (negated, rest) =>
              if isKnownName mode negated then read fuel mode (bracket.add 0) rest else none
          | none => do
              let (depth, rest) ← read fuel mode opening (← skipCaret mode rest)
              read fuel mode (bracket.add (depth + 1)) rest
      | _, chars => do
          let rest ← skipMember mode chars
          read fuel mode (bracket.add 0) rest

end Bracket

end DhcpRelay.Pattern
