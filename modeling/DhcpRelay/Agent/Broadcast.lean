import DhcpRelay.Agent.Dhcp4

/-!
# The broadcast forwarder

A broadcast to a configured UDP port is sent on, as a datagram of its own, to
each server of the interface with that port.  The client's address and ports
stay, the time to live goes down by one.
-/

namespace DhcpRelay.Relay

/-- The datagram is for all stations of a link of this machine. -/
def isBroadcast (state : Relay) (destination : IPv4) : Bool :=
  destination == IPv4.broadcast || state.links.isDirectedBroadcast destination

/-- The servers of an interface for a UDP port, in the order they are sent to. -/
def portServers (state : Relay) (interface : String) (port : UInt16) : List IPv4 :=
  ((state.servers4.serversOf interface).filter (·.port == port)).map (·.address)

/-- The address that a broadcast is sent on from. -/
def forwardSource (state : Relay) (source : IPv4) (interface : String) :
    Except DropCause IPv4 :=
  if source = IPv4.unspecified then
    match state.links.ipv4? interface with
    | some address => .ok address
    | none => .error (.noInterfaceAddress interface)
  else
    .ok source

/-- The datagram that carries a payload on to a server. -/
def forwardedDatagram (header : DatagramHeader) (payload : Bytes) : Except DropCause Bytes :=
  let buffer := List.replicate (ipv4HeaderSize + udpHeaderSize + payload.length) 0
  match Datagram.encode buffer header payload with
  | .ok (_, datagram) => .ok datagram
  | .error fault => .error (.malformed fault)

/-- Forward the payload of the datagram that was decoded to `view`. -/
def forward (state : Relay) (network : Network) (view : DatagramView)
    (payload : Bytes) (index : UInt32) (interface : Option String) : Relaying :=
  if !state.settings.udpForwarderEnabled then
    .error .disabled
  else if !state.isBroadcast view.destination then
    .error .notBroadcast
  else if view.timeToLive ≤ 1 then
    .error .ttlExpired
  else
    match interface with
    | none => .error (.unknownInterface index)
    | some interface =>
        let servers := state.portServers interface view.destinationPort
        if servers.isEmpty then
          .error (.noServerForPort view.destinationPort)
        else do
          let source ← state.forwardSource view.source interface
          servers.mapM fun server => do
            let datagram ← forwardedDatagram
              { source := source
                destination := server
                sourcePort := view.sourcePort
                destinationPort := view.destinationPort
                timeToLive := view.timeToLive - 1 } payload
            return .attempt (.send network (.broadcastToServer interface server)
              (.raw4 datagram server))

/-- Handle an IPv4 datagram that came in on an interface.  DHCP goes to the relay
and any other UDP to the forwarder. -/
def receive4 (state : Relay) (network : Network) (datagram : Bytes) (index : UInt32) :
    Handled :=
  let interface := state.links.name? index
  let ingress := counted interface
  let statistics := state.statistics.touch ingress
  match Datagram.decode datagram with
  | .error fault => .dropped (.malformed fault) (statistics.bump ingress .badPackets)
  | .ok view =>
      let payload := view.payload datagram
      if view.destinationPort = Dhcp4.serverPort ∨ view.destinationPort = Dhcp4.clientPort then
        state.receiveBootp network view payload index interface statistics
      else
        (state.forward network view payload index interface).finish statistics
          ingress .udpForwarded .udpDropped ingress

end DhcpRelay.Relay
