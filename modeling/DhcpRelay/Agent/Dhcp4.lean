import DhcpRelay.Agent.Basic
import DhcpRelay.Net.Datagram

/-!
# The DHCPv4 relay

Requests go from the interface they came in on to each of its servers.  Replies
go to the client behind the interface that owns the relay address in them.
-/

namespace DhcpRelay.Relay

/-- Requests that crossed more relays are not sent on. -/
def hopLimit : UInt8 := 16

/-- The address that requests of an interface are marked with. -/
def requestAddress (state : Relay) (interface : String) : Option IPv4 :=
  (state.links.ipv4? interface).filter (· != IPv4.unspecified)

/-- The identity that is written into requests, if the relay knows it. -/
def identity (state : Relay) (address : IPv4) : Option Dhcp4.Identity :=
  match state.settings.identity with
  | .mac =>
      if state.links.ownMac.isKnown then some (.mac state.links.ownMac) else none
  | .ip => some (.ip address)

/-- The DHCPv4 servers of an interface, in the order they are sent to. -/
def dhcpServers (state : Relay) (interface : String) : List IPv4 :=
  ((state.servers4.serversOf interface).filter (·.port == Dhcp4.serverPort)).map (·.address)

/-- A request with the agent information that the settings ask for. -/
def markRequest (state : Relay) (message : Bytes) (index : UInt32) (address : IPv4) :
    Except DropCause Bytes :=
  if state.settings.option82Enabled then
    let edited := Dhcp4.markRequest message state.settings.option82Policy index
      (state.identity address)
    match edited.result with
    | .ok .drop => .error .option82Policy
    | .ok _ => .ok edited.message
    | .error fault => .error (.malformed fault)
  else
    .ok message

/-- A request with the hop count and the relay address set.  An address that an
earlier relay wrote stays. -/
def stampRequest (state : Relay) (message : Bytes) (address : IPv4) :
    Except DropCause Bytes :=
  let hops := Dhcp4.hops message
  if hopLimit < hops then
    .error .hopLimitExceeded
  else
    let counted :=
      if state.settings.hopCountIncrement then Dhcp4.withHops message (hops + 1) else message
    .ok
      (if Dhcp4.relayAddress counted = IPv4.unspecified then
        Dhcp4.withRelayAddress counted address
      else
        counted)

/-- Relay a request that came in on an interface from `source`. -/
def relayRequest (state : Relay) (network : Network) (source : IPv4) (message : Bytes)
    (index : UInt32) (interface : Option String) : Relaying :=
  match interface with
  | none => .error (.unknownInterface index)
  | some interface =>
      match state.requestAddress interface with
      | none => .error (.noInterfaceAddress interface)
      | some address => do
          let marked ← state.markRequest message index address
          let stamped ← state.stampRequest marked address
          let servers := state.dhcpServers interface
          if servers.isEmpty then
            .error (.noHelperConfigured interface)
          else
            let override := if source = IPv4.unspecified then some address else none
            return servers.map fun server =>
              let destination : Endpoint4 := ⟨server, Dhcp4.serverPort⟩
              .attempt (.send network (.requestToServer interface destination)
                (.udp4 stamped destination override none))

/-- The interface that a reply goes out on: the owner of its relay address. -/
def replyInterface (state : Relay) (message : Bytes) :
    Except DropCause (UInt32 × String) :=
  let relayAddress := Dhcp4.relayAddress message
  match state.links.ownerOf relayAddress with
  | none => .error (.unknownRelayAddress relayAddress)
  | some index =>
      match state.links.name? index with
      | none => .error (.unknownInterface index)
      | some interface => .ok (index, interface)

/-- A reply without agent information, where the settings ask for that. -/
def unmarkReply (state : Relay) (message : Bytes) : Except DropCause Bytes :=
  if state.settings.option82Enabled then
    let edited := Dhcp4.unmarkReply message state.settings.option82Validation
      state.settings.identity state.links
    match edited.result with
    | .forward => .ok edited.message
    | .dropInvalid => .error .invalidOption82
    | .dropUnvalidated => .error .option82Unvalidated
  else
    .ok message

/-- The address that a reply is sent to. -/
def replyDestination (message : Bytes) : Option IPv4 :=
  let type := Dhcp4.typeOf message
  if Dhcp4.wantsBroadcast message || type == some Dhcp4.refusal then
    some IPv4.broadcast
  else if Dhcp4.yourAddress message ≠ IPv4.unspecified then
    some (Dhcp4.yourAddress message)
  else if type = some Dhcp4.acknowledgement ∧
      Dhcp4.clientAddress message ≠ IPv4.unspecified then
    some (Dhcp4.clientAddress message)
  else
    none

/-- Deliver a reply through an interface.  A client that is sent to directly is
made a neighbour first. -/
def deliver (state : Relay) (network : Network) (message : Bytes) (index : UInt32)
    (interface : String) : Relaying := do
  let unmarked ← state.unmarkReply message
  match replyDestination unmarked with
  | none => .error .noClientAddress
  | some client =>
      let entry : NeighbourEntry :=
        ⟨interface, client, Dhcp4.hardwareAddress unmarked, Dhcp4.hardwareType unmarked⟩
      let neighbour : List Effect :=
        if client = IPv4.broadcast then []
        else [.neighbour entry (network.refusesNeighbour entry)]
      let destination : Endpoint4 := ⟨client, Dhcp4.clientPort⟩
      return neighbour ++ [.attempt (.send network (.replyToClient interface destination)
        (.udp4 unmarked destination (some (Dhcp4.relayAddress message)) (some index)))]

/-- Handle a BOOTP message from the datagram that was decoded to `view`. -/
def receiveBootp (state : Relay) (network : Network) (view : DatagramView)
    (message : Bytes) (index : UInt32) (interface : Option String) (statistics : Statistics) :
    Handled :=
  let ingress := counted interface
  if !state.settings.relayEnabled then
    .dropped .disabled statistics
  else
    match Dhcp4.checkHeader message with
    | .error fault => .dropped (.malformed fault) (statistics.bump ingress .badPackets)
    | .ok () =>
        let operation := Dhcp4.operation message
        let statistics :=
          match Counter.ofMessage operation (Dhcp4.typeOf message) with
          | some counter => statistics.bump ingress counter
          | none => statistics
        if operation = Dhcp4.requestOperation then
          (state.relayRequest network view.source message index interface).finish statistics
            ingress .v4ClientRelayed .v4ClientDropped ingress
        else if operation = Dhcp4.replyOperation then
          if view.destination = IPv4.broadcast then
            .dropped .broadcastReply statistics
          else
            match state.replyInterface message with
            | .error reason =>
                Relaying.finish (.error reason) statistics ingress .v4ServerRelayed
                  .v4ServerDropped ingress
            | .ok (index, egress) =>
                (state.deliver network message index egress).finish statistics egress
                  .v4ServerRelayed .v4ServerDropped egress
        else
          .dropped (.malformed (.malformedHeader .bootpOperation))
            (statistics.bump ingress .badPackets)

end DhcpRelay.Relay
