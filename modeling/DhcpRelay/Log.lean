import DhcpRelay.Text.Blank
import DhcpRelay.Text.Lines
import DhcpRelay.Text.Shown

/-!
# Log lines

A notice is what the relay writes to its log: a level, a component, a
message and named values.
-/

namespace DhcpRelay

/-- How important a notice is. -/
inductive Level where
  | error
  | warn
  | info
  | debug
  | trace
  deriving DecidableEq, Repr

namespace Level

def text : Level → String
  | error => "ERROR"
  | warn => "WARN"
  | info => "INFO"
  | debug => "DEBUG"
  | trace => "TRACE"

/-- The place among the levels, the most important one first. -/
def rank : Level → Nat
  | error => 1
  | warn => 2
  | info => 3
  | debug => 4
  | trace => 5

end Level

/-- A log line. -/
structure Notice where
  level : Level
  component : String
  message : String
  fields : List (String × String)
  deriving DecidableEq, Repr

namespace Notice

/-- The text of a notice. -/
def render (notice : Notice) : String :=
  notice.fields.foldl (fun line (name, value) => line ++ " " ++ name ++ "=" ++ value)
    (notice.level.text ++ " " ++ notice.component ++ ": " ++ notice.message)

/-- The names of what a notice carries, its message included. -/
def fieldNames (notice : Notice) : List String :=
  "message" :: notice.fields.map Prod.fst

end Notice

namespace Log

/-- The lines of a log, without the blanks in front of them.  A notice whose values
hold line ends takes up several lines. -/
def lines (notices : List Notice) : List String :=
  (notices.flatMap fun notice => Text.splitLines notice.render.toList).map fun line =>
    String.ofList (line.dropWhile Text.isBlank)

/-- The hexadecimal digits of a code. -/
def hexDigits (code : Nat) : List Char :=
  Nat.toDigits 16 code

/-- A character of a quoted value. -/
def quoteChar (char : Char) : List Char :=
  match char with
  | '\x00' => ['\\', '0']
  | '\t' => ['\\', 't']
  | '\n' => ['\\', 'n']
  | '\r' => ['\\', 'r']
  | '"' => ['\\', '"']
  | '\\' => ['\\', '\\']
  | char =>
      if Text.isShown char then [char]
      else ['\\', 'u', '\x7b'] ++ hexDigits char.toNat ++ ['\x7d']

/-- A value in quotes. -/
def quote (text : String) : String :=
  String.ofList ('"' :: text.toList.flatMap quoteChar ++ ['"'])

end Log

end DhcpRelay
