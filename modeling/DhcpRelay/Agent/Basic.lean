import DhcpRelay.Agent.Statistics
import DhcpRelay.Configuration.Settings
import DhcpRelay.Dhcp6.Delivery
import DhcpRelay.Servers.Basic

/-!
# The relay agent

`Relay` is all that the handling of a packet looks at.  A handler gives an
outcome, the counters afterwards and what it did to the network, in order.  The
network itself answers through `Network` alone.
-/

namespace DhcpRelay

/-- A UDP endpoint of an IPv4 address. -/
structure Endpoint4 where
  address : IPv4
  port : UInt16
  deriving DecidableEq, Repr

/-- The text `address:port`. -/
def Endpoint4.text (endpoint : Endpoint4) : String :=
  endpoint.address.text ++ ":" ++ Decimal.text endpoint.port.toNat

/-- A UDP endpoint of an IPv6 address.  Scope zero means that none is given. -/
structure Endpoint6 where
  address : IPv6
  port : UInt16
  scope : UInt32
  deriving DecidableEq, Repr

/-- The text `[address%scope]:port`. -/
def Endpoint6.text (endpoint : Endpoint6) : String :=
  let scope :=
    if endpoint.scope = 0 then "" else "%" ++ Decimal.text endpoint.scope.toNat
  "[" ++ endpoint.address.text ++ scope ++ "]:" ++ Decimal.text endpoint.port.toNat

/-! ## Outcomes -/

/-- Why a packet is not relayed. -/
inductive DropCause where
  | disabled
  | malformed (fault : MessageFault)
  | broadcastReply
  | unknownInterface (index : UInt32)
  | noInterfaceAddress (interface : String)
  | unknownRelayAddress (address : IPv4)
  | hopLimitExceeded
  | noHelperConfigured (interface : String)
  | option82Policy
  | invalidOption82
  | option82Unvalidated
  | noClientAddress
  | v4MappedSource
  | invalidMessageType
  | notRelayReply
  | missingClientMac
  | undeliverable (fault : Dhcp6.DeliveryFault)
  | notBroadcast
  | ttlExpired
  | noServerForPort (port : UInt16)
  | sendFailed
  deriving DecidableEq, Repr

/-- The text of a reason. -/
def DropCause.message : DropCause → String
  | disabled => "relay disabled"
  | malformed fault => "malformed packet: " ++ fault.message
  | broadcastReply => "broadcast reply already on the wire"
  | unknownInterface index => s!"unknown interface index {index}"
  | noInterfaceAddress interface => s!"interface {interface} has no IPv4 address"
  | unknownRelayAddress address => s!"no local interface owns relay address {address}"
  | hopLimitExceeded => "hop limit exceeded"
  | noHelperConfigured interface => s!"no server configured on {interface}"
  | option82Policy => "option 82 present and policy is drop"
  | invalidOption82 => "invalid option 82"
  | option82Unvalidated => "no valid option 82 in reply"
  | noClientAddress => "no client address to deliver to"
  | v4MappedSource => "IPv4-mapped source address"
  | invalidMessageType => "invalid message type"
  | notRelayReply => "server message is not a relay-reply"
  | missingClientMac => "client MAC address unknown"
  | undeliverable fault => fault.message
  | notBroadcast => "not a broadcast destination"
  | ttlExpired => "TTL expired"
  | noServerForPort port => s!"no server for UDP port {port}"
  | sendFailed => "every send failed"

/-- What became of a packet. -/
inductive Outcome where
  /-- Sent to `sent` destinations, while `failed` sends failed. -/
  | relayed (sent failed : Nat)
  | dropped (reason : DropCause)
  deriving DecidableEq, Repr

/-- The packet was sent on. -/
def Outcome.isSuccess : Outcome → Bool
  | relayed _ _ => true
  | dropped _ => false

/-! ## The network -/

/-- A packet handed to the network. -/
inductive Transmission where
  /-- A UDP payload, from a source address and through an interface if given. -/
  | udp4 (payload : Bytes) (destination : Endpoint4) (source : Option IPv4)
      (interface : Option UInt32)
  /-- A whole IPv4 datagram. -/
  | raw4 (datagram : Bytes) (destination : IPv4)
  /-- A UDP payload; multicast goes out through an interface. -/
  | udp6 (payload : Bytes) (destination : Endpoint6) (multicastInterface : Option UInt32)
  deriving DecidableEq, Repr

/-- The link-layer address of a client that has no IPv4 address yet. -/
structure NeighbourEntry where
  interface : String
  address : IPv4
  hardwareAddress : Bytes
  hardwareType : UInt8
  deriving DecidableEq, Repr

/-- What a packet is sent for. -/
inductive Purpose where
  | requestToServer (interface : String) (server : Endpoint4)
  | replyToClient (interface : String) (client : Endpoint4)
  | broadcastToServer (interface : String) (server : IPv4)
  | messageToServer6 (interface : String) (server : Server6)
  | replyToPeer6 (peer : Endpoint6)
  deriving DecidableEq, Repr

/-- How the network answers: with a reason to refuse, or not.  An attempt to send is refused
for its packet or for its purpose.  An interface lists a server once, so no two attempts for one
message have the same purpose, and of two equal packets one may get through and the other not. -/
structure Network where
  refusesSend : Transmission → Option String
  refusesNeighbour : NeighbourEntry → Option String
  refusesPurpose : Purpose → Option String := fun _ => none

/-- The answer to an attempt to send. -/
def Network.refuses (network : Network) (purpose : Purpose) (packet : Transmission) :
    Option String :=
  (network.refusesPurpose purpose).or (network.refusesSend packet)

/-- A try to send.  Nothing is transmitted where a destination cannot be reached
to begin with. -/
structure Attempt where
  purpose : Purpose
  transmission : Option Transmission
  failure : Option String
  deriving DecidableEq, Repr

namespace Attempt

/-- Send a packet. -/
def send (network : Network) (purpose : Purpose) (transmission : Transmission) : Attempt :=
  ⟨purpose, some transmission, network.refuses purpose transmission⟩

/-- Do not even try. -/
def unreachable (purpose : Purpose) (reason : String) : Attempt :=
  ⟨purpose, none, some reason⟩

/-- The packet was not sent. -/
def hasFailed (attempt : Attempt) : Bool :=
  attempt.failure.isSome

/-- The packet that was sent. -/
def delivered (attempt : Attempt) : Option Transmission :=
  match attempt.failure with
  | some _ => none
  | none => attempt.transmission

/-- The log line of a failure. -/
def notice? (attempt : Attempt) : Option Notice :=
  attempt.failure.map fun reason =>
    match attempt.purpose with
    | .requestToServer interface server =>
        ⟨.warn, "mvirt_relay::relay::v4", "Failed to relay DHCP request",
          [("iface", interface), ("server", server.text), ("error", reason)]⟩
    | .replyToClient interface client =>
        ⟨.warn, "mvirt_relay::relay::v4", "Failed to relay DHCP reply",
          [("iface", interface), ("client", client.text), ("error", reason)]⟩
    | .broadcastToServer interface server =>
        ⟨.warn, "mvirt_relay::relay::forwarder", "Failed to forward broadcast",
          [("iface", interface), ("server", server.text), ("error", reason)]⟩
    | .messageToServer6 interface server =>
        ⟨.warn, "mvirt_relay::relay::v6", "Failed to relay DHCPv6 message",
          [("iface", interface), ("server", server.text), ("error", reason)]⟩
    | .replyToPeer6 peer =>
        ⟨.warn, "mvirt_relay::relay::v6", "Failed to relay DHCPv6 reply",
          [("peer", peer.text), ("error", reason)]⟩

end Attempt

/-- What a handler does to the network. -/
inductive Effect where
  | neighbour (entry : NeighbourEntry) (failure : Option String)
  | attempt (attempt : Attempt)
  deriving DecidableEq, Repr

namespace Effect

/-- The attempt to send, if the effect is one. -/
def attempt? : Effect → Option Attempt
  | .neighbour _ _ => none
  | .attempt tried => some tried

/-- The neighbour entry that was installed. -/
def installed? : Effect → Option NeighbourEntry
  | .neighbour entry none => some entry
  | _ => none

end Effect

/-- The number of attempts that failed. -/
def failures (attempts : List Attempt) : Nat :=
  attempts.countP (·.hasFailed)

/-- The outcome of sending a packet on. -/
def Outcome.ofAttempts (attempts : List Attempt) : Outcome :=
  let failed := failures attempts
  let sent := attempts.length - failed
  if sent = 0 ∧ 0 < failed then .dropped .sendFailed else .relayed sent failed

/-! ## The state -/

/-- The number of DHCPv4 servers that an interface may have. -/
def capacity4 : Nat := 16

/-- The number of DHCPv6 servers that an interface may have. -/
def capacity6 : Nat := 8

/-- Everything a packet is handled by. -/
structure Relay where
  settings : Settings
  links : Topology
  servers4 : Roster Server4
  servers6 : Roster Server6
  statistics : Statistics

namespace Relay

/-- A relay without servers. -/
def start (settings : Settings) (links : Topology) : Relay where
  settings := settings
  links := links
  servers4 := .empty capacity4 false
  servers6 := .empty capacity6 true
  statistics := .empty

/-- The name that packets of an interface count under. -/
def counted (interface : Option String) : String :=
  interface.getD Statistics.unknownInterface

end Relay

/-- The result of handling a packet. -/
structure Handled where
  outcome : Outcome
  statistics : Statistics
  effects : List Effect

namespace Handled

/-- The attempts to send, in order. -/
def attempts (handled : Handled) : List Attempt :=
  handled.effects.filterMap (·.attempt?)

/-- The packets that were sent, in order. -/
def sent (handled : Handled) : List Transmission :=
  handled.attempts.filterMap (·.delivered)

/-- The neighbour entries that were installed, in order. -/
def installed (handled : Handled) : List NeighbourEntry :=
  handled.effects.filterMap (·.installed?)

/-- The log lines, in order. -/
def notices (handled : Handled) : List Notice :=
  handled.attempts.filterMap (·.notice?)

/-- A packet that was dropped before anything was sent. -/
def dropped (reason : DropCause) (statistics : Statistics) : Handled :=
  ⟨.dropped reason, statistics, []⟩

end Handled

/-- What a packet is sent on as: the effects of doing so, or a reason not to. -/
abbrev Relaying := Except DropCause (List Effect)

namespace Relaying

/-- The effects of relaying. -/
def effects : Relaying → List Effect
  | .ok effects => effects
  | .error _ => []

/-- The attempts to send. -/
def attempts (relaying : Relaying) : List Attempt :=
  relaying.effects.filterMap (·.attempt?)

/-- The outcome of relaying. -/
def outcome : Relaying → Outcome
  | .ok effects => .ofAttempts (effects.filterMap (·.attempt?))
  | .error reason => .dropped reason

/-- Count the outcome under `relayed` or `dropped` of one interface and the sends
that failed under another. -/
def finish (relaying : Relaying) (statistics : Statistics) (interface : String)
    (relayed dropped : Counter) (failing : String) : Handled where
  outcome := relaying.outcome
  statistics :=
    let failed := failures relaying.attempts
    let statistics :=
      if failed = 0 then statistics else statistics.add failing .sendFailures failed
    statistics.bump interface (if relaying.outcome.isSuccess then relayed else dropped)
  effects := relaying.effects

end Relaying

end DhcpRelay
