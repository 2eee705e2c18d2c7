import DhcpRelay.Address.IPv6
import DhcpRelay.Pattern.Basic

/-!
# Patterns: atoms

An atom is a part of a pattern without parts of its own.  Properties of characters and
pairs of cases are known for ASCII only.  So what needs them is refused as long as the
pattern is about characters, and what could match part of a character is refused where
it is about bytes.
-/

namespace DhcpRelay.Pattern

/-- A part of a pattern without parts. -/
inductive Atom where
  | literal (char : Char)
  /-- A dot, which stands for any character. -/
  | any
  /-- Digits, blanks or the characters of words, or all but these. -/
  | category (negated : Bool)
  /-- A place at the edge of the text or of a line. -/
  | textEdge
  /-- A place at the edge of a word, or one that is at no edge. -/
  | wordEdge
  deriving DecidableEq, Repr

namespace Atom

/-- The atom is known where it stands alone. -/
def isKnown (mode : Mode) : Atom → Bool
  | literal _ => mode.bytewise || !mode.caseless
  | any => !mode.bytewise
  | category negated => mode.bytewise && !negated
  | textEdge => true
  | wordEdge => mode.bytewise

/-- The atom can be a member of a class. -/
def isMember (mode : Mode) : Atom → Bool
  | literal char => if mode.bytewise then char.toNat < 128 else !mode.caseless
  | category negated => mode.bytewise && !negated
  | _ => false

/-- What a letter or a mark stands for behind a backslash. -/
def escaped? : Char → Option Atom
  | 'd' | 's' | 'w' => some (category false)
  | 'D' | 'S' | 'W' => some (category true)
  | 'A' | 'z' => some textEdge
  | 'b' | 'B' | '<' | '>' => some wordEdge
  | 'a' => some (literal '\x07')
  | 't' => some (literal '\t')
  | 'n' => some (literal '\n')
  | 'v' => some (literal '\x0b')
  | 'f' => some (literal '\x0c')
  | 'r' => some (literal '\r')
  | mark => if mark.toNat < 128 && !mark.isAlphanum then some (literal mark) else none

/-- Read hexadecimal digits of a code behind those that were read. -/
def readDigits (mode : Mode) : Nat → Nat → List Char → Option (Nat × List Char)
  | 0, code, chars => some (code, chars)
  | count + 1, code, chars =>
      match mode.skip chars with
      | [] => none
      | digit :: rest => do
          let value ← IPv6.hexValue? digit
          readDigits mode count (code * 16 + value) rest

/-- Read a character by its code of some digits. -/
def readCode (mode : Mode) (count : Nat) (chars : List Char) : Option (Atom × List Char) := do
  let (code, rest) ← readDigits mode count 0 chars
  if code.isValidChar then some (literal (Char.ofNat code), rest) else none

/-- Read an atom behind its backslash.  Where the pattern is about bytes, a code of two
digits is a byte, which has to be a character of its own. -/
def readEscaped (mode : Mode) : List Char → Option (Atom × List Char)
  | 'x' :: rest =>
      (readCode mode 2 rest).filter fun (atom, _) => !mode.bytewise || atom.isMember mode
  | 'u' :: rest => readCode mode 4 rest
  | 'U' :: rest => readCode mode 8 rest
  | mark :: rest => (escaped? mark).map (·, rest)
  | [] => none

/-- Read an atom of a class, in which all but a backslash stands for itself. -/
def readMember (mode : Mode) : List Char → Option (Atom × List Char)
  | '\\' :: rest => readEscaped mode rest
  | mark :: rest => some (literal mark, rest)
  | [] => none

/-- Read an atom. -/
def read (mode : Mode) : List Char → Option (Atom × List Char)
  | '.' :: rest => some (any, rest)
  | '^' :: rest => some (textEdge, rest)
  | '$' :: rest => some (textEdge, rest)
  | chars => readMember mode chars

end Atom

end DhcpRelay.Pattern
