import DhcpRelay.Text.Blank

/-!
# Patterns: flags and nesting

A pattern is a regular expression.  It is read under flags, which may change within
it, and how deeply its parts may be nested is bounded.
-/

namespace DhcpRelay.Pattern

/-! ## Flags -/

/-- The flags that decide which texts are patterns. -/
structure Mode where
  /-- A letter stands for both of its cases. -/
  caseless : Bool
  /-- The pattern is about bytes and not about characters. -/
  bytewise : Bool
  /-- Blanks and comments stand for nothing. -/
  spaced : Bool
  deriving DecidableEq, Repr

namespace Mode

/-- The flags at the beginning of a pattern. -/
def standard : Mode := ⟨false, false, false⟩

/-- Turn a flag on or off.  What lines are, what a dot stands for and which match is
preferred make no difference to what can be read. -/
def turn (on : Bool) (flag : Char) (mode : Mode) : Option Mode :=
  match flag with
  | 'i' => some { mode with caseless := on }
  | 'u' => some { mode with bytewise := !on }
  | 'x' => some { mode with spaced := on }
  | 'm' | 's' | 'U' | 'R' => some mode
  | _ => none

/-- Turn flags on, and those behind a hyphen off. -/
def turnAll (on : Bool) : List Char → Mode → Option Mode
  | [], mode => some mode
  | '-' :: flags, mode => turnAll false flags mode
  | flag :: flags, mode => (mode.turn on flag).bind (turnAll on flags)

/-- Change the flags as it is written: no flag twice and something behind the hyphen. -/
def change (written : List Char) (mode : Mode) : Option Mode :=
  if written.Nodup ∧ written.getLast? ≠ some '-' then mode.turnAll true written else none

end Mode

/-! ## Blanks and comments -/

/-- The text behind blanks and comments.  A comment starts with a number sign and ends
with its line; the first argument says that the text begins within one. -/
def skipBlanks : Bool → List Char → List Char
  | _, [] => []
  | true, char :: rest => skipBlanks (char != '\n') rest
  | false, char :: rest =>
      if char == '#' then skipBlanks true rest
      else if Text.isBlank char then skipBlanks false rest
      else char :: rest

namespace Mode

/-- The text behind what stands for nothing. -/
def skip (mode : Mode) (chars : List Char) : List Char :=
  if mode.spaced then skipBlanks false chars else chars

end Mode

/-! ## Nesting -/

/-- How deeply parts are nested that stand beside each other.  A part alone stands for
itself. -/
def depthBeside : List Nat → Nat
  | [] => 0
  | [depth] => depth
  | depths => depths.foldl max 0 + 1

/-- What is kept of a part of a pattern. -/
structure Outline where
  /-- How deeply its parts are nested. -/
  depth : Nat
  /-- The names of its groups. -/
  names : List (List Char)
  deriving DecidableEq, Repr

namespace Outline

/-- A part without parts. -/
def leaf : Outline := ⟨0, []⟩

/-- A part within another one. -/
def within (part : Outline) : Outline :=
  { part with depth := part.depth + 1 }

/-- Parts beside each other. -/
def beside (parts : List Outline) : Outline :=
  ⟨depthBeside (parts.map Outline.depth), parts.flatMap Outline.names⟩

/-- Nothing is nested too deeply, and no name is given twice. -/
def isSound (outline : Outline) : Bool :=
  outline.depth ≤ 250 && decide outline.names.Nodup

end Outline

end DhcpRelay.Pattern
