import DhcpRelay.Agent.Basic
import DhcpRelay.Command.Basic
import DhcpRelay.Text.Lines

/-!
# Reports

A report is the text that answers a command, taken from one state of the relay.
-/

namespace DhcpRelay

namespace Report

/-- The word for a switch. -/
def switch (on : Bool) : String :=
  if on then "enabled" else "disabled"

/-- The line of a DHCPv4 server. -/
def v4Server (entry : Roster.Entry Server4) : String :=
  "Server IP Address : " ++ entry.server.address.text ++ ", Port no : " ++
    Decimal.text entry.server.port.toNat ++ ", Server Ip ref count : " ++
    Decimal.text entry.count

/-- The lines of an interface: all servers, or those of one port. -/
def v4Interface (port : Option UInt16) (overview : Roster.Overview Server4) : List String :=
  let shown := overview.servers.filter fun entry => port.all (· == entry.server.port)
  let missing := match port with
    | some port =>
        if shown.isEmpty then
          ["No IP address associated with this port: " ++ Decimal.text port.toNat]
        else []
    | none => []
  ("Interface : " ++ overview.name) :: shown.map v4Server ++ missing

/-- The servers of one interface or of all, for one port or for all.  Port zero
stands for all. -/
def v4 (state : Relay) (interface : Option String) (port : Option UInt16) : String :=
  let overviews := state.servers4.overview interface
  let unknown := match interface with
    | some name =>
        if overviews.isEmpty then
          ["No helper address configured on this interface :" ++ name]
        else []
    | none => []
  Text.lines <|
    ["DHCP Relay : " ++ switch state.settings.relayEnabled,
      "UDP Broadcast Forwarder : " ++ switch state.settings.udpForwarderEnabled] ++
    unknown ++ overviews.flatMap (v4Interface (port.filter (· != 0)))

/-- The line of a DHCPv6 server. -/
def v6Server (entry : Roster.Entry Server6) : String :=
  entry.server.address.text ++ ",ref " ++ Decimal.text entry.count ++ ",egress " ++
    entry.server.egress.getD "-"

/-- The lines of an interface. -/
def v6Interface (overview : Roster.Overview Server6) : List String :=
  ("Interface " ++ overview.name ++ ": " ++ Decimal.text overview.servers.length) ::
    overview.servers.map v6Server

/-- The DHCPv6 servers of one interface or of all. -/
def v6 (state : Relay) (interface : Option String) : String :=
  let overviews := state.servers6.overview interface
  let unknown := match interface with
    | some name =>
        if overviews.isEmpty then
          ["No servers are configured on this interface :" ++ name]
        else []
    | none => []
  Text.lines <|
    ["DHCPv6 Relay : " ++ switch state.settings.v6RelayEnabled,
      "DHCPv6 Relay Option79 : " ++ switch state.settings.option79Enabled] ++
    unknown ++ overviews.flatMap v6Interface

end Report

/-- The report that a command asks for.  Counters carry a time. -/
def Command.report (command : Command) (state : Relay) (timestamp : String) : String :=
  match command with
  | .dump interface port => Report.v4 state interface port
  | .dump6 interface => Report.v6 state interface
  | .stats => state.statistics.render timestamp

end DhcpRelay
