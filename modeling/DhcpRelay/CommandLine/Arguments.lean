import DhcpRelay.Command.Basic
import DhcpRelay.Startup
import DhcpRelay.Table

/-!
# Arguments of the program

The command line is described by tables of options and commands.  It has one
segment before the command and one behind it.  Options are written `--name value`
or `--name=value`, once at most in a segment; general options may stand in both,
and then the later one counts.  Behind `--` nothing is an option.

The first thing that is wrong ends the reading, and so does the first wish for
help.  A value that is a word of its own counts only when its segment goes on, and
one that stands before the command only after the segment behind it was read.
-/

namespace DhcpRelay.CommandLine

/-- The values that an option takes. -/
inductive ValueKind where
  | text
  | path
  | port
  deriving DecidableEq, Repr

/-- An option with a value. -/
structure OptionEntry where
  name : String
  kind : ValueKind
  help : String
  deriving DecidableEq, Repr

/-- A command; `operand` names the value that it takes besides options. -/
structure CommandEntry where
  name : String
  about : String
  options : List OptionEntry
  operand : Option String
  deriving DecidableEq, Repr

/-- The log filter unless another is given. -/
def standardLogFilter : String := "info"

/-- The options of every command. -/
def generalOptions : List OptionEntry :=
  [⟨"log-level", .text,
      "Log level used when RUST_LOG is not set [default: " ++ standardLogFilter ++ "]"⟩,
    ⟨"control", .path,
      "Control socket of the running daemon [default: " ++ standardControlPath ++ "]"⟩]

/-- The commands. -/
def commands : List CommandEntry :=
  [⟨"run", "Run the relay daemon (default)",
      [⟨"config", .path, "Configuration file [default: " ++ standardConfigPath ++ "]"⟩], none⟩,
    ⟨"dump", "Show the DHCPv4 relay and UDP forwarder servers",
      [⟨"interface", .text, ""⟩,
        ⟨"port", .port, "Only show servers for this UDP port (requires --interface)"⟩], none⟩,
    ⟨"dump6", "Show the DHCPv6 relay servers", [⟨"interface", .text, ""⟩], none⟩,
    ⟨"stats", "Show relay counters as JSON", [], none⟩,
    ⟨"check-config", "Parse and validate a configuration file without applying it", [],
      some "PATH"⟩]

/-- Why arguments do not say what to do. -/
inductive Stop where
  /-- Help was asked for, on one command or on all. -/
  | help (command : Option CommandEntry)
  /-- Help was asked for on asking for help. -/
  | helpOnHelp
  /-- The arguments do not fit the tables. -/
  | usage
  deriving DecidableEq, Repr

/-- The options and operands that were given. -/
structure Given where
  values : Table String String
  operands : List String

namespace Given

/-- Nothing was given. -/
def nothing : Given := ⟨.empty, []⟩

end Given

/-- Read the number of a port; its sign may be written. -/
def readPort (written : String) : Option UInt16 :=
  match written.toList with
  | '-' :: digits =>
      (Decimal.readUnsigned digits).bind fun value => if value = 0 then some 0 else none
  | _ => Decimal.readWord16 written

/-- The option takes this value. -/
def accepts (kind : ValueKind) (value : String) : Bool :=
  match kind with
  | .text => true
  | .path => !value.isEmpty
  | .port => (readPort value).isSome

/-- The argument is an option or looks like one. -/
def isDashed (argument : String) : Bool :=
  argument.startsWith "-" && argument != "-"

/-- Give an option its value. -/
def Given.setOption (given : Given) (entry : OptionEntry) (value : String) : Except Stop Given :=
  if given.values.contains entry.name || !accepts entry.kind value then
    .error .usage
  else
    .ok { given with values := given.values.put entry.name value }

/-- Add operands, of which a command takes `limit`. -/
def Given.addOperands (given : Given) (limit : Nat) (operands : List String) :
    Except Stop Given :=
  if limit < given.operands.length + operands.length || operands.any (·.isEmpty) then
    .error .usage
  else
    .ok { given with operands := given.operands ++ operands }

/-- The name and the attached value of a long option. -/
def splitLong (argument : String) : String × Option String :=
  let body := argument.toList.drop 2
  let name := body.takeWhile (· != '=')
  (String.ofList name,
    if name.length = body.length then none
    else some (String.ofList (body.drop (name.length + 1))))

/-- What a segment of the command line takes besides options. -/
inductive Words where
  /-- The name of a command, which ends the segment. -/
  | command
  /-- Operands, this many at most. -/
  | operands (limit : Nat)

/-- The number of operands that may follow. -/
def Words.limit : Words → Nat
  | .command => 0
  | .operands limit => limit

/-- What was read of a segment. -/
structure Segment where
  given : Given
  /-- An option whose value does not count yet. -/
  pending : Option (OptionEntry × String)
  /-- The command that ends the segment, and what follows it. -/
  command : Option (String × List String)

/-- What was given, with a value that did not count before. -/
def settle (given : Given) (pending : Option (OptionEntry × String)) : Except Stop Given :=
  match pending with
  | none => .ok given
  | some (entry, value) => given.setOption entry value

/-- What was given in the whole segment. -/
def Segment.settled (segment : Segment) : Except Stop Given :=
  settle segment.given segment.pending

/-- Read a segment.  Help is on `about`. -/
def readSegment (about : Option CommandEntry) (options : List OptionEntry) (words : Words)
    (given : Given) (pending : Option (OptionEntry × String)) :
    List String → Except Stop Segment
  | [] => .ok ⟨given, pending, none⟩
  | argument :: rest =>
      if isDashed argument then do
        let given ← settle given pending
        if argument = "--" then
          return ⟨← given.addOperands words.limit rest, none, none⟩
        else if argument.startsWith "--" then
          let (name, attached) := splitLong argument
          if name = "help" then
            .error (if attached.isSome then .usage else .help about)
          else
            match options.find? (·.name == name), attached, rest with
            | none, _, _ => .error .usage
            | some entry, some value, rest => do
                readSegment about options words (← given.setOption entry value) none rest
            | some _, none, [] => .error .usage
            | some entry, none, value :: rest =>
                if isDashed value then .error .usage
                else readSegment about options words given (some (entry, value)) rest
        else
          .error (if argument.startsWith "-h" then .help about else .usage)
      else
        match words with
        | .command => .ok ⟨given, pending, some (argument, rest)⟩
        | .operands limit => do
            let given ← settle given pending
            readSegment about options words (← given.addOperands limit [argument]) none rest

/-- What to do. -/
inductive Action where
  | run (config : String)
  | ask (command : Command)
  | checkFile (path : String)
  deriving DecidableEq, Repr

/-- What was asked for, the control socket to use and the log filter. -/
structure Invocation where
  control : String
  logFilter : String
  action : Action
  deriving DecidableEq, Repr

/-- The action of a command. -/
def actionOf (name : String) (given : Given) : Except Stop Action :=
  let interface := given.values.get? "interface"
  let port := (given.values.get? "port").bind readPort
  match name, given.operands with
  | "run", [] => .ok (.run ((given.values.get? "config").getD standardConfigPath))
  | "dump", [] =>
      if port.isSome && interface.isNone then .error .usage
      else .ok (.ask (.dump interface port))
  | "dump6", [] => .ok (.ask (.dump6 interface))
  | "stats", [] => .ok (.ask .stats)
  | "check-config", [path] => .ok (.checkFile path)
  | _, _ => .error .usage

/-- The help that is asked for by words behind `help`. -/
def helpFor : List String → Stop
  | [] => .help none
  | ["help"] => .helpOnHelp
  | [name] =>
      match commands.find? (·.name == name) with
      | some entry => .help (some entry)
      | none => .usage
  | _ => .usage

/-- What is asked for with these general options, the ones that count most first. -/
def Invocation.ofOptions (given : List Given) (action : Action) : Invocation :=
  let value (name default : String) : String :=
    (given.findSome? fun options => options.values.get? name).getD default
  ⟨value "control" standardControlPath, value "log-level" standardLogFilter, action⟩

/-- Read the arguments of the program. -/
def readArguments (arguments : List String) : Except Stop Invocation := do
  let top ← readSegment none generalOptions .command .nothing none arguments
  match top.command with
  | none => return .ofOptions [← top.settled] (.run standardConfigPath)
  | some ("help", words) => throw (helpFor words)
  | some (name, rest) =>
      match commands.find? (·.name == name) with
      | none => throw .usage
      | some entry => do
          let segment ← readSegment (some entry) (entry.options ++ generalOptions)
            (.operands entry.operand.toList.length) .nothing none rest
          let inner ← segment.settled
          let action ← actionOf name inner
          return .ofOptions [inner, ← top.settled] action

end DhcpRelay.CommandLine
