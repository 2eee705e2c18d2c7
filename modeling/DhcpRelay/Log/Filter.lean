import DhcpRelay.Log
import DhcpRelay.Pattern.Reader
import DhcpRelay.Text.Alphanumeric
import DhcpRelay.Text.Decimal
import DhcpRelay.Text.Offset
import DhcpRelay.Text.Real

/-!
# Log filters

A filter is written as directives with commas between them:

    component[span{field=value}]=level

Every part may be missing.  A directive says up to which level the notices of the
components with that name in front are written.  Directives that cannot be read
are passed over, also those with a value that is neither a number nor a pattern, and
without any directive only errors are written.
-/

namespace DhcpRelay

/-- The levels that are written. -/
inductive Threshold where
  | off
  | upTo (level : Level)
  deriving DecidableEq, Repr

namespace Threshold

/-- Notices of a level are written. -/
def allows : Threshold → Level → Bool
  | off, _ => false
  | upTo least, level => level.rank ≤ least.rank

/-- The thresholds by name; their places are their numbers. -/
def names : List (String × Threshold) :=
  [("off", .off), ("error", .upTo .error), ("warn", .upTo .warn), ("info", .upTo .info),
    ("debug", .upTo .debug), ("trace", .upTo .trace)]

/-- Read a number, or a name in letters of either case. -/
def read (written : List Char) : Option Threshold :=
  match Decimal.read written with
  | some number => names[number]?.map Prod.snd
  | none => (names.find? (·.1 == String.ofList (written.map Char.toLower))).map Prod.snd

/-- Read a threshold; no characters stand for all levels. -/
def readOrAll (written : List Char) : Option Threshold :=
  if written = [] then some (.upTo .trace) else read written

end Threshold

/-- A directive of a filter. -/
structure Directive where
  /-- How the names of the components start. -/
  component : Option String
  /-- What a notice has to carry. -/
  field : Option String
  /-- The directive asks for a span or for the value of a field.  Notices are
  written outside all spans, so it applies to none. -/
  spansOnly : Bool
  threshold : Threshold
  deriving DecidableEq, Repr

namespace Directive

/-- The directive that holds where no other is given. -/
def standard : Directive := ⟨none, none, false, .upTo .error⟩

/-! ## Reading

Parts are taken out of the written text by their offsets, which are counted without
the blanks around the text.  So blanks in front move the parts, and blanks at the end
belong to the last part. -/

/-- Why a directive is not read. -/
inductive Fault where
  /-- The text has not the form of a directive, which is then passed over. -/
  | unreadable
  /-- A part would begin or end within a character, so the filter is refused. -/
  | cutCharacter
  deriving DecidableEq, Repr

/-- A directive that is being read: the text as it is written, and what was found
so far. -/
structure Draft where
  written : List Char
  component : Option String
  field : Option String
  spansOnly : Bool

namespace Draft

/-- The part of the written text between two offsets. -/
def part (draft : Draft) (start stop : Nat) : Except Fault (List Char) :=
  match Text.between? start stop draft.written with
  | some part => .ok part
  | none => .error .cutCharacter

/-- The directive with a threshold. -/
def finish (draft : Draft) (threshold : Threshold) : Directive :=
  ⟨draft.component, draft.field, draft.spansOnly, threshold⟩

/-- Read on behind the name or the brackets: nothing or a level. -/
def readLevel (draft : Draft) (offset : Nat) : List Char → Except Fault Directive
  | [] => .ok (draft.finish (.upTo .trace))
  | '=' :: _ => do
      let level ← draft.part (offset + 1) (Text.byteLength draft.written)
      match Threshold.readOrAll level with
      | some threshold => .ok (draft.finish threshold)
      | none => .error .unreadable
  | _ => .error .unreadable

/-- The draft with a field, which may ask for a value: a number or a pattern between
its first two signs of equality. -/
def withField (draft : Draft) (field : List Char) : Except Fault Draft :=
  let name := field.takeWhile (· != '=')
  let named : Draft := { draft with field := some (String.ofList name) }
  match field.drop name.length with
  | [] => if field = [] then .error .unreadable else .ok named
  | _ :: rest =>
      let value := rest.takeWhile (· != '=')
      if Real.isReal value || Pattern.isPattern value then
        .ok { named with spansOnly := true }
      else
        .error .unreadable

/-- Read a field behind its opening brace. -/
def readField (draft : Draft) (offset : Nat) (rest : List Char) : Except Fault Directive :=
  let inside := rest.takeWhile (· != '\x7d')
  let stop := offset + Text.byteLength inside
  match rest.drop inside.length with
  | [] => .error .unreadable
  | _ :: rest => do
      let complete ← draft.withField (← draft.part offset stop)
      match rest with
      | ']' :: rest => complete.readLevel (stop + 2) rest
      | _ => .error .unreadable

/-- Read a span behind its opening bracket. -/
def readSpan (draft : Draft) (offset : Nat) (rest : List Char) : Except Fault Directive :=
  let inside := rest.takeWhile fun char => char != ']' && char != '\x7b'
  let stop := offset + Text.byteLength inside
  match rest.drop inside.length with
  | [] => .error .unreadable
  | mark :: rest => do
      let name ← draft.part offset stop
      let spanned : Draft := { draft with spansOnly := mark == ']' || name != [] }
      if mark == ']' then spanned.readLevel (stop + 1) rest
      else spanned.readField (stop + 1) rest

end Draft

/-- A name or level may start with this character. -/
def isStart (char : Char) : Bool :=
  char == '-' || char == ':' || char == '_' || Text.isAlphanumeric char

/-- Read a directive that is a level or a name alone. -/
def ofWord (written : List Char) : Directive :=
  match Threshold.read written with
  | some threshold => ⟨none, none, false, threshold⟩
  | none => ⟨some (String.ofList written), none, false, .upTo .trace⟩

/-- Read a directive. -/
def read (written : List Char) : Except Fault Directive :=
  let draft : Draft := ⟨written, none, none, false⟩
  match Text.trimBlanks written with
  | [] => .error .unreadable
  | '[' :: rest => draft.readSpan 1 rest
  | first :: rest =>
      if isStart first then
        let text := first :: rest
        let name := text.takeWhile fun char => char != '=' && char != '['
        let stop := Text.byteLength name
        match text.drop name.length with
        | [] => .ok (ofWord written)
        | mark :: rest => do
            let component := String.ofList (← draft.part 0 stop)
            let named : Draft := { draft with component := some component }
            if mark == '[' then named.readSpan (stop + 1) rest
            else named.readLevel stop (mark :: rest)
      else
        .error .unreadable

/-! ## Applying -/

/-- The directive is about a notice. -/
def concerns (directive : Directive) (notice : Notice) : Bool :=
  !directive.spansOnly && directive.component.all (notice.component.startsWith ·) &&
    directive.field.all (notice.fieldNames.contains ·)

/-- The first directive says more exactly what it is about than the second one: by
the length of its name, and then by its field. -/
def isMoreExact (first second : Directive) : Bool :=
  let length (directive : Directive) : Nat :=
    (directive.component.map (·.utf8ByteSize + 1)).getD 0
  if length first = length second then
    match first.field, second.field with
    | some left, some right => right < left
    | some _, none => true
    | none, _ => false
  else
    length second < length first

/-- The more exact one of this directive and one that was found before; of equals
this one. -/
def orBetter (directive : Directive) : Option Directive → Directive
  | some found => if found.isMoreExact directive then found else directive
  | none => directive

/-- The most exact one of some directives and one that was found before. -/
def mostExact : Option Directive → List Directive → Option Directive
  | best, [] => best
  | best, directive :: rest => mostExact (some (directive.orBetter best)) rest

end Directive

/-- A log filter. -/
abbrev LogFilter := List Directive

namespace LogFilter

/-- Read directives and pass over those that cannot be read. -/
def readAll : List (List Char) → Option LogFilter
  | [] => some []
  | written :: rest =>
      match Directive.read written with
      | .ok directive => (readAll rest).map (directive :: ·)
      | .error .unreadable => readAll rest
      | .error .cutCharacter => none

/-- Read a filter, unless a part of it would begin or end within a character. -/
def read? (written : String) : Option LogFilter :=
  (readAll (written.toList.splitOn ',')).map fun directives =>
    if directives = [] then [.standard] else directives

/-- The directive that decides about a notice: of those that concern it the most
exact one, and of equals the last. -/
def deciding? (filter : LogFilter) (notice : Notice) : Option Directive :=
  Directive.mostExact none (filter.filter (·.concerns notice))

/-- A notice is written. -/
def allows (filter : LogFilter) (notice : Notice) : Bool :=
  (filter.deciding? notice).any (·.threshold.allows notice.level)

end LogFilter

end DhcpRelay
