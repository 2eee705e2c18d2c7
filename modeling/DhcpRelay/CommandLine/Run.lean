import DhcpRelay.CommandLine.FileTree
import DhcpRelay.CommandLine.Help
import DhcpRelay.Log.Filter

/-!
# Running the program

The program meets files, a control socket and the system's sockets as a `Host`
and ends with an `Exit`.
-/

namespace DhcpRelay.CommandLine

/-- The surroundings of the program. -/
structure Host where
  /-- The content of a file. -/
  file : String → Except SystemFault Bytes
  /-- What the relay behind a control socket answers to a command. -/
  ask : String → Command → Except SystemFault String
  sockets : Sockets
  links : Topology
  access : GroupAccess

/-- The surroundings of a program that runs in a directory of files in memory, next
to the relay that owns its sockets. -/
def Host.inMemory (place : FilePlace) (answer : Command → Except SystemFault String)
    (links : Topology) (access : GroupAccess) : Host where
  file := place.content
  ask path command := do
    place.connect path
    answer command
  sockets := .unprivileged
  links := links
  access := access

/-- How the program ends. -/
inductive Exit where
  | success (output : String)
  | usage
  /-- The log filter is refused before anything is done. -/
  | refused
  /-- The reason is logged unless the log filter is against it. -/
  | failure (reason : String) (logged : Bool)
  deriving DecidableEq, Repr

/-- What a failure came from: each text of the chain after the one before. -/
def failed (context : String) (chain : List String) : Except String String :=
  .error (": ".intercalate (context :: chain))

/-- Check a configuration file. -/
def checkFile (host : Host) (path : String) : Except String String :=
  match Document.ofContent (host.file path) with
  | .error fault => failed s!"Failed to load {path}" fault.chain
  | .ok document =>
      match document.check with
      | .error fault => failed s!"Invalid configuration in {path}" fault.chain
      | .ok () => .ok s!"{path}: OK ({document.interfaces.length} interfaces)\n"

/-- The paths of sockets are shorter, in bytes. -/
def socketPathLimit : Nat := 108

/-- The reply of the relay behind a control socket. -/
def replyOf (host : Host) (control : String) (command : Command) : Except SystemFault String :=
  if socketPathLimit ≤ control.utf8ByteSize then .error .socketPathTooLong
  else host.ask control command

/-- Ask a running relay. -/
def ask (host : Host) (control : String) (command : Command) : Except String String :=
  match replyOf host control command with
  | .error fault => failed s!"Failed to reach relay at {control}" [fault.text]
  | .ok reply => .ok reply

/-- Run a relay.  One that starts ends without output. -/
def runRelay (host : Host) (config : String) : Except String String :=
  match start host.sockets host.links host.access (host.file config) with
  | .error fault =>
      failed "Failed to start relay (root privileges are required for raw sockets)" fault.chain
  | .ok _ => .ok ""

/-- Do what was asked for: the output, or the reason of a failure. -/
def perform (host : Host) (invocation : Invocation) : Except String String :=
  match invocation.action with
  | .run config => runRelay host config
  | .ask command => ask host invocation.control command
  | .checkFile path => checkFile host path

/-- The log line of a failure. -/
def failureNotice (reason : String) : Notice where
  level := .error
  component := "mvirt_relay"
  message := programName ++ " failed"
  fields := [("error", reason)]

/-- Run the program. -/
def run (host : Host) (arguments : List String) : Exit :=
  match readArguments arguments with
  | .error (.help command) => .success (helpText command)
  | .error .helpOnHelp => .success helpOnHelpText
  | .error .usage => .usage
  | .ok invocation =>
      match LogFilter.read? invocation.logFilter with
      | none => .refused
      | some filter =>
          match perform host invocation with
          | .ok output => .success output
          | .error reason => .failure reason (filter.allows (failureNotice reason))

end DhcpRelay.CommandLine
