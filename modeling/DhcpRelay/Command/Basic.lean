import DhcpRelay.Text.Blank
import DhcpRelay.Text.Decimal

/-!
# Control commands

A command is one line of words.  `read` accepts any blanks between them, `line`
writes single ones.
-/

namespace DhcpRelay

/-- What the relay can be asked for. -/
inductive Command where
  /-- The DHCPv4 servers and forwarding targets. -/
  | dump (interface : Option String) (port : Option UInt16)
  /-- The DHCPv6 servers. -/
  | dump6 (interface : Option String)
  /-- The counters. -/
  | stats
  deriving DecidableEq, Repr

/-- Why a line is no command. -/
inductive CommandFault where
  | unknownCommand (name : String)
  | invalidPort (written : String)
  | tooManyArguments
  deriving DecidableEq, Repr

/-- The text of a fault. -/
def CommandFault.message : CommandFault → String
  | unknownCommand name => "unknown command: " ++ name
  | invalidPort written => "invalid port: " ++ written
  | tooManyArguments => "too many arguments"

namespace Command

/-- Read the words of a command. -/
def ofWords : List String → Except CommandFault Command
  | [] => .error (.unknownCommand "")
  | ["dump"] => .ok (.dump none none)
  | ["dump", interface] => .ok (.dump (some interface) none)
  | ["dump", interface, port] =>
      match Decimal.readWord16 port with
      | some number => .ok (.dump (some interface) (some number))
      | none => .error (.invalidPort port)
  | ["dump6"] => .ok (.dump6 none)
  | ["dump6", interface] => .ok (.dump6 (some interface))
  | ["stats"] => .ok .stats
  | name :: _ =>
      if name = "dump" ∨ name = "dump6" ∨ name = "stats" then .error .tooManyArguments
      else .error (.unknownCommand name)

/-- Read a command. -/
def read (line : String) : Except CommandFault Command :=
  ofWords (Text.words line)

/-- The line of a command.  A port says nothing without an interface. -/
def line : Command → String
  | dump (some interface) (some port) =>
      "dump " ++ interface ++ " " ++ Decimal.text port.toNat
  | dump (some interface) none => "dump " ++ interface
  | dump none _ => "dump"
  | dump6 (some interface) => "dump6 " ++ interface
  | dump6 none => "dump6"
  | stats => "stats"

end Command

end DhcpRelay
