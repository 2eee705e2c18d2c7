import DhcpRelay.Command.Report
import DhcpRelay.SystemFault

/-!
# The control connection

A connection carries one command line to the relay and one report back.  The
relay reads a limited number of bytes, and what a client sent beyond them makes
the connection break when it is closed.
-/

namespace DhcpRelay.Exchange

/-- The number of bytes that are read of a command. -/
def lineLimit : Nat := 256

/-- The end of a line. -/
def newline : UInt8 := 10

/-- The bytes up to the first line end, which is the last of them. -/
def firstLine : Bytes → Bytes
  | [] => []
  | byte :: rest => if byte = newline then [byte] else byte :: firstLine rest

/-- The line that the relay reads from what was sent. -/
def received (sent : Bytes) : Bytes :=
  firstLine (sent.take lineLimit)

/-- The reply to a line. -/
def replyTo (state : Relay) (timestamp line : String) : String :=
  match Command.read (Text.trim line) with
  | .ok command => command.report state timestamp
  | .error fault => "error: " ++ fault.message ++ "\n"

/-- The reply on a connection; none if the line is not text. -/
def answer (state : Relay) (timestamp : String) (sent : Bytes) : Option String :=
  (String.fromUTF8? ⟨(received sent).toArray⟩).map (replyTo state timestamp)

/-- What a client sends for a command. -/
def requestBytes (command : Command) : Bytes :=
  (command.line ++ "\n").toUTF8.data.toList

/-- What a client gets for a command. -/
def ask (state : Relay) (timestamp : String) (command : Command) :
    Except SystemFault String :=
  let sent := requestBytes command
  if lineLimit < sent.length then
    .error .connectionReset
  else
    .ok ((answer state timestamp sent).getD "")

end DhcpRelay.Exchange
