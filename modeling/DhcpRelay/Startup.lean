import DhcpRelay.Rollout.Apply
import DhcpRelay.Topology.GroupSocket

/-!
# Starting the relay

A relay reads its configuration, opens its sockets and applies the
configuration.  The first failure ends this.
-/

namespace DhcpRelay

/-- The file that the configuration is read from. -/
def standardConfigPath : String := "/etc/mvirt/relay.json"

/-- The socket that commands are read from. -/
def standardControlPath : String := "/run/mvirt/relay.sock"

/-- Why a relay cannot run. -/
inductive StartFault where
  | config (fault : ConfigFault)
  | socket (what : String) (fault : SystemFault)
  deriving DecidableEq, Repr

/-- The text of a failure. -/
def StartFault.message : StartFault → String
  | config fault => "Configuration error: " ++ fault.message
  | socket what fault => s!"Failed to open {what}: {fault.text}"

/-! Longer texts name a failure and then each failure that it came from. -/

/-- The text of a failure and of what it came from. -/
def RosterFault.chain (fault : RosterFault) : List String :=
  fault.message ::
    match fault with
    | membership _ reason => [reason]
    | _ => []

/-- The text of a failure and of what it came from. -/
def ConfigFault.chain (fault : ConfigFault) : List String :=
  fault.message ::
    match fault with
    | io inner => [inner.text]
    | servers inner => inner.chain
    | _ => []

/-- The text of a failure and of what it came from. -/
def StartFault.chain (fault : StartFault) : List String :=
  fault.message ::
    match fault with
    | config inner => inner.chain
    | socket _ inner => [inner.text]

/-- The sockets that a relay opens, as far as the system allows it. -/
structure Sockets where
  v6 : Except SystemFault Unit
  v4Listener : Except SystemFault Unit
  v4Senders : Except SystemFault Unit

/-- Without privileges no socket of the relay can be opened: their ports are
reserved, and raw sockets are not permitted. -/
def Sockets.unprivileged : Sockets where
  v6 := .error .permissionDenied
  v4Listener := .error .notPermitted
  v4Senders := .error .permissionDenied

/-- Open a socket. -/
def Sockets.openNamed (what : String) (opened : Except SystemFault Unit) :
    Except StartFault Unit :=
  opened.mapError (.socket what)

/-- Start a relay with the content of its configuration file. -/
def start (sockets : Sockets) (links : Topology) (access : GroupAccess)
    (content : Except SystemFault Bytes) : Except StartFault ManagedRelay := do
  let document ← (Document.ofContent content).mapError .config
  sockets.v6 |> Sockets.openNamed "DHCPv6 socket"
  sockets.v4Listener |> Sockets.openNamed "DHCPv4 listener"
  sockets.v4Senders |> Sockets.openNamed "DHCPv4 senders"
  let run := (ManagedRelay.start .default links).apply access document
  match run.result with
  | .ok _ => .ok run.after
  | .error fault => .error (.config fault)

end DhcpRelay
