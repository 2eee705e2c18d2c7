import DhcpRelay.Pattern.Bracket
import DhcpRelay.Pattern.Group

/-!
# Patterns: branches and repetitions

A pattern is branches with bars between them, of which each is a sequence of atoms,
classes and groups, which may be repeated.  `isPattern` says which texts are patterns;
nothing is matched.
-/

namespace DhcpRelay.Pattern

/-- Branches that are being read. -/
structure Branches where
  /-- The branches in front of the last bar. -/
  finished : List Outline
  /-- The parts since the last bar, last part first. -/
  parts : List Outline
  /-- The last part can be repeated. -/
  isRepeatable : Bool
  deriving DecidableEq, Repr

namespace Branches

/-- One branch without parts. -/
def opening : Branches := ⟨[], [], false⟩

/-- The branches with a part. -/
def add (branches : Branches) (part : Outline) : Branches :=
  { branches with parts := part :: branches.parts, isRepeatable := true }

/-- The branches with flags, which count as a part but cannot be repeated. -/
def addFlags (branches : Branches) : Branches :=
  { branches with parts := .leaf :: branches.parts, isRepeatable := false }

/-- The branches with a new one. -/
def turn (branches : Branches) : Branches :=
  ⟨.beside branches.parts :: branches.finished, [], false⟩

/-- The branches with the last part repeated. -/
def again (branches : Branches) : Option Branches :=
  match branches.isRepeatable, branches.parts with
  | true, part :: parts => some { branches with parts := part.within :: parts }
  | _, _ => none

/-- What is kept of the branches. -/
def outline (branches : Branches) : Outline :=
  .beside (.beside branches.parts :: branches.finished)

/-- The text behind the mark of a repetition that takes as little as possible. -/
def skipLazy : List Char → List Char
  | '?' :: rest => rest
  | chars => chars

/-- Read branches up to a closing parenthesis or the end of the text.  A repetition by
count has a closing brace, which no value holds.  The first argument bounds the steps. -/
def read : Nat → Mode → Branches → List Char → Option (Outline × List Char)
  | 0, _, _, _ => none
  | fuel + 1, mode, branches, chars =>
      match mode.skip chars with
      | [] => some (branches.outline, [])
      | ')' :: rest => some (branches.outline, ')' :: rest)
      | '|' :: rest => read fuel mode branches.turn rest
      | '(' :: rest => do
          match ← Opening.read mode (mode.skip rest) with
          | (.flags changed, rest) => read fuel changed branches.addFlags rest
          | (.group name inner, rest) =>
              match ← read fuel inner opening rest with
              | (⟨depth, names⟩, ')' :: rest) =>
                  let part : Outline := ⟨depth + 1, name.toList ++ names⟩
                  read fuel mode (branches.add part) rest
              | _ => none
      | '[' :: rest => do
          let (depth, rest) ← Bracket.read fuel mode .opening (← Bracket.skipCaret mode rest)
          read fuel mode (branches.add ⟨depth + 1, []⟩) rest
      | '\x7b' :: _ => none
      | '?' :: rest => do read fuel mode (← branches.again) (skipLazy rest)
      | '*' :: rest => do read fuel mode (← branches.again) (skipLazy rest)
      | '+' :: rest => do read fuel mode (← branches.again) (skipLazy rest)
      | chars => do
          let (atom, rest) ← Atom.read mode chars
          if atom.isKnown mode then read fuel mode (branches.add .leaf) rest else none

end Branches

/-- The text is a pattern. -/
def isPattern (written : List Char) : Bool :=
  match Branches.read (written.length + 1) .standard .opening written with
  | some (outline, []) => outline.isSound
  | _ => false

end DhcpRelay.Pattern
