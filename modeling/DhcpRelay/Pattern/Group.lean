import DhcpRelay.Pattern.Basic
import DhcpRelay.Text.Alphanumeric

/-!
# Patterns: how groups begin

A group may have a name or flags of its own.  Flags in brackets without a colon are no
group: they hold up to the end of the group around them.
-/

namespace DhcpRelay.Pattern

/-- What an opening parenthesis begins. -/
inductive Opening where
  /-- A group with its name, if it has one, and the flags within it. -/
  | group (name : Option (List Char)) (mode : Mode)
  /-- Flags for what is behind them. -/
  | flags (mode : Mode)
  deriving DecidableEq, Repr

namespace Opening

/-- The text can be the name of a group. -/
def isName : List Char → Bool
  | [] => false
  | first :: others =>
      (first == '_' || Text.isAlphabetic first) &&
        others.all fun char =>
          ['_', '.', '[', ']'].contains char || Text.isAlphanumeric char

/-- Read a name and the bracket behind it. -/
def readName (mode : Mode) (chars : List Char) : Option (Opening × List Char) :=
  let name := chars.takeWhile (· != '>')
  match chars.drop name.length with
  | _ :: rest => if isName name then some (group (some name) mode, rest) else none
  | [] => none

/-- Read what stands behind an opening parenthesis and says what it begins. -/
def read (mode : Mode) : List Char → Option (Opening × List Char)
  | '?' :: 'P' :: '<' :: rest => readName mode rest
  | '?' :: '<' :: rest => readName mode rest
  | '?' :: rest => do
      let written := rest.takeWhile fun char => char != ':' && char != ')'
      let changed ← mode.change written
      match rest.drop written.length with
      | ':' :: rest => some (group none changed, rest)
      | ')' :: rest => if written = [] then none else some (flags changed, rest)
      | _ => none
  | rest => some (group none mode, rest)

end Opening

end DhcpRelay.Pattern
