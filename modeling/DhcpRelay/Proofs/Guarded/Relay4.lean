import DhcpRelay.Agent.Broadcast
import DhcpRelay.Proofs.Agent.ReplyPath
import DhcpRelay.Proofs.Agent.RequestPath
import DhcpRelay.Proofs.Guarded.Datagram
import DhcpRelay.Proofs.Guarded.Marking
import DhcpRelay.Proofs.Net.Datagram

/-!
# The DHCPv4 relay and the forwarder with guards

A message whose header is complete keeps it whatever is done to its options, so the
fields that are read and written later are still there.
-/

namespace DhcpRelay.Guarded

/-! ## Requests -/

/-- A request with the agent information that the settings ask for. -/
def markedRequest (state : Relay) (message : Bytes) (index : UInt32) (address : IPv4) :
    Guard (Except DropCause Bytes) := do
  if state.settings.option82Enabled then
    let edited ← markRequest message state.settings.option82Policy index (state.identity address)
    match edited.result with
    | .ok .drop => return .error .option82Policy
    | .ok _ => return .ok edited.message
    | .error fault => return .error (.malformed fault)
  else
    return .ok message

/-- A message with the hop count one higher, where the settings ask for that. -/
def counted (state : Relay) (message : Bytes) (hops : UInt8) : Guard Bytes := do
  if state.settings.hopCountIncrement then write message 3 (← increment hops) else .ok message

/-- A message with the relay address set, unless it has one. -/
def addressed (message : Bytes) (address : IPv4) : Guard Bytes := do
  if (← address4 message 24) = IPv4.unspecified then copy message 24 28 address.octets
  else .ok message

/-- A request with the hop count and the relay address set. -/
def stampRequest (state : Relay) (message : Bytes) (address : IPv4) :
    Guard (Except DropCause Bytes) := do
  let hops ← byte message 3
  if Relay.hopLimit < hops then
    return .error .hopLimitExceeded
  else
    return .ok (← addressed (← counted state message hops) address)

/-- Relay a request that came in on an interface from `source`. -/
def relayRequest (state : Relay) (network : Network) (source : IPv4) (message : Bytes)
    (index : UInt32) (interface : Option String) : Guard Relaying := do
  match interface with
  | none => return .error (.unknownInterface index)
  | some interface =>
      match state.requestAddress interface with
      | none => return .error (.noInterfaceAddress interface)
      | some address =>
          proceed (markedRequest state message index address) fun marked =>
            proceed (stampRequest state marked address) fun stamped =>
              let servers := state.dhcpServers interface
              if servers.isEmpty then
                return .error (.noHelperConfigured interface)
              else
                let override := if source = IPv4.unspecified then some address else none
                return .ok <| servers.map fun server =>
                  let destination : Endpoint4 := ⟨server, Dhcp4.serverPort⟩
                  .attempt (.send network (.requestToServer interface destination)
                    (.udp4 stamped destination override none))

variable {state : Relay} {message marked unmarked : Bytes} {address : IPv4} {index : UInt32}

theorem markedRequest_eq (state : Relay) (message : Bytes) (index : UInt32) (address : IPv4) :
    markedRequest state message index address = .ok (state.markRequest message index address) := by
  rw [markedRequest, Relay.markRequest]
  cases state.settings.option82Enabled with
  | false => rfl
  | true =>
      rw [if_pos rfl, if_pos rfl, markRequest_eq, ok_bind]
      generalize Dhcp4.markRequest message state.settings.option82Policy index
        (state.identity address) = edited
      rcases edited with ⟨result, left⟩
      cases result with
      | error fault => rfl
      | ok verdict => cases verdict <;> rfl

theorem counted_eq (state : Relay) {hops : UInt8} (inside : 3 < message.length)
    (within : hops ≤ Relay.hopLimit) :
    counted state message hops =
      .ok (if state.settings.hopCountIncrement then Dhcp4.withHops message (hops + 1)
        else message) := by
  rw [counted, increment_eq within (by decide), ok_bind, write_eq inside]
  cases state.settings.hopCountIncrement <;> rfl

theorem addressed_eq (fits : 28 ≤ message.length) (address : IPv4) :
    addressed message address =
      .ok (if Dhcp4.relayAddress message = IPv4.unspecified then
        Dhcp4.withRelayAddress message address else message) := by
  rw [addressed, address4_eq fits, ok_bind]
  change (if Dhcp4.relayAddress message = IPv4.unspecified then _ else _) = _
  split
  · exact copy_eq fits rfl
  · rfl

theorem stampRequest_eq (state : Relay) (whole : Dhcp4.headerSize ≤ message.length)
    (address : IPv4) :
    stampRequest state message address = .ok (state.stampRequest message address) := by
  have size : 236 ≤ message.length := whole
  have fits : 28 ≤ message.length := by omega
  have inside : 3 < message.length := by omega
  have hops : byte message 3 = .ok (Dhcp4.hops message) := byte_eq inside
  rw [stampRequest, Relay.stampRequest, hops, ok_bind]
  by_cases exceeded : Relay.hopLimit < Dhcp4.hops message
  · rw [if_pos exceeded, if_pos exceeded]
    rfl
  · rw [if_neg exceeded, if_neg exceeded, counted_eq state inside (UInt8.not_lt.1 exceeded),
      ok_bind, addressed_eq]
    · rfl
    · split
      · exact (Dhcp4.length_withHops message _).symm ▸ fits
      · exact fits

theorem relayRequest_eq (state : Relay) (network : Network) (source : IPv4)
    (whole : Dhcp4.headerSize ≤ message.length) (index : UInt32) (interface : Option String) :
    relayRequest state network source message index interface =
      .ok (state.relayRequest network source message index interface) := by
  cases interface with
  | none => rfl
  | some interface =>
      rw [relayRequest, Relay.relayRequest]
      cases state.requestAddress interface with
      | none => rfl
      | some address =>
          dsimp only
          rw [markedRequest_eq]
          refine proceed_eq fun marked done => ?_
          have kept : Dhcp4.headerSize ≤ marked.length :=
            Bytes.length_le_of_take_eq (Relay.take_of_markRequest done) (by decide) whole
          rw [stampRequest_eq state kept]
          refine proceed_eq fun stamped _ => ?_
          split <;> rfl

/-! ## Replies -/

/-- The interface that a reply goes out on. -/
def replyInterface (state : Relay) (message : Bytes) :
    Guard (Except DropCause (UInt32 × String)) := do
  let relayAddress ← address4 message 24
  match state.links.ownerOf relayAddress with
  | none => return .error (.unknownRelayAddress relayAddress)
  | some index =>
      match state.links.name? index with
      | none => return .error (.unknownInterface index)
      | some interface => return .ok (index, interface)

/-- A reply without agent information, where the settings ask for that. -/
def unmarkedReply (state : Relay) (message : Bytes) : Guard (Except DropCause Bytes) := do
  if state.settings.option82Enabled then
    let edited ← unmarkReply message state.settings.option82Validation state.settings.identity
      state.links
    match edited.result with
    | .forward => return .ok edited.message
    | .dropInvalid => return .error .invalidOption82
    | .dropUnvalidated => return .error .option82Unvalidated
  else
    return .ok message

/-- The address that a reply is sent to. -/
def replyDestination (message : Bytes) : Guard (Option IPv4) := do
  let type ← typeOf message
  if (← wantsBroadcast message) || type == some Dhcp4.refusal then
    return some IPv4.broadcast
  else
    let assigned ← address4 message 16
    if assigned ≠ IPv4.unspecified then
      return some assigned
    else
      let used ← address4 message 12
      if type = some Dhcp4.acknowledgement ∧ used ≠ IPv4.unspecified then
        return some used
      else
        return none

/-- The neighbour that a client is made before it is sent to directly. -/
def neighbour (network : Network) (message : Bytes) (interface : String) (client : IPv4) :
    Guard (List Effect) := do
  if client = IPv4.broadcast then
    return []
  else
    let entry : NeighbourEntry :=
      ⟨interface, client, ← hardwareAddress message, ← byte message 1⟩
    return [.neighbour entry (network.refusesNeighbour entry)]

/-- Deliver a reply through an interface. -/
def deliver (state : Relay) (network : Network) (message : Bytes) (index : UInt32)
    (interface : String) : Guard Relaying :=
  proceed (unmarkedReply state message) fun unmarked => do
    match ← replyDestination unmarked with
    | none => return .error .noClientAddress
    | some client =>
        let neighbour ← neighbour network unmarked interface client
        let relayAddress ← address4 message 24
        let destination : Endpoint4 := ⟨client, Dhcp4.clientPort⟩
        return .ok (neighbour ++ [.attempt (.send network (.replyToClient interface destination)
          (.udp4 unmarked destination (some relayAddress) (some index)))])

theorem replyInterface_eq (state : Relay) (whole : Dhcp4.headerSize ≤ message.length) :
    replyInterface state message = .ok (state.replyInterface message) := by
  have size : 236 ≤ message.length := whole
  have address : address4 message 24 = .ok (Dhcp4.relayAddress message) := address4_eq (by omega)
  rw [replyInterface, Relay.replyInterface, address, ok_bind]
  cases state.links.ownerOf (Dhcp4.relayAddress message) with
  | none => rfl
  | some index =>
      dsimp only
      cases state.links.name? index <;> rfl

theorem unmarkedReply_eq (state : Relay) (message : Bytes) :
    unmarkedReply state message = .ok (state.unmarkReply message) := by
  rw [unmarkedReply, Relay.unmarkReply]
  cases state.settings.option82Enabled with
  | false => rfl
  | true =>
      rw [if_pos rfl, if_pos rfl, unmarkReply_eq, ok_bind]
      generalize Dhcp4.unmarkReply message state.settings.option82Validation
        state.settings.identity state.links = edited
      rcases edited with ⟨verdict, left⟩
      cases verdict <;> rfl

theorem replyDestination_eq (whole : Dhcp4.headerSize ≤ message.length) :
    replyDestination message = .ok (Relay.replyDestination message) := by
  have size : 236 ≤ message.length := whole
  have assigned : address4 message 16 = .ok (Dhcp4.yourAddress message) := address4_eq (by omega)
  have used : address4 message 12 = .ok (Dhcp4.clientAddress message) := address4_eq (by omega)
  rw [replyDestination, Relay.replyDestination, typeOf_eq whole, ok_bind, wantsBroadcast_eq whole,
    ok_bind, assigned, ok_bind, used, ok_bind]
  split
  · rfl
  split
  · rfl
  split <;> rfl

theorem neighbour_eq (network : Network) (whole : Dhcp4.headerSize ≤ message.length)
    (interface : String) (client : IPv4) :
    let entry : NeighbourEntry :=
      ⟨interface, client, Dhcp4.hardwareAddress message, Dhcp4.hardwareType message⟩
    neighbour network message interface client =
      .ok (if client = IPv4.broadcast then []
        else [.neighbour entry (network.refusesNeighbour entry)]) := by
  have size : 236 ≤ message.length := whole
  rw [neighbour, hardwareAddress_eq whole, ok_bind, byte_eq (by omega), ok_bind]
  split <;> rfl

theorem deliver_eq (state : Relay) (network : Network)
    (whole : Dhcp4.headerSize ≤ message.length) (index : UInt32) (interface : String) :
    deliver state network message index interface =
      .ok (state.deliver network message index interface) := by
  have size : 236 ≤ message.length := whole
  have address : address4 message 24 = .ok (Dhcp4.relayAddress message) := address4_eq (by omega)
  rw [deliver, unmarkedReply_eq]
  refine proceed_eq fun unmarked done => ?_
  have kept : Dhcp4.headerSize ≤ unmarked.length :=
    Bytes.length_le_of_take_eq (Relay.take_of_unmarkReply done) (by decide) whole
  rw [replyDestination_eq kept, ok_bind]
  cases Relay.replyDestination unmarked with
  | none => rfl
  | some client =>
      dsimp only
      rw [neighbour_eq network kept, ok_bind, address, ok_bind]
      rfl

/-- Handle a BOOTP message from the datagram that was decoded to `view`. -/
def receiveBootp (state : Relay) (network : Network) (view : DatagramView) (message : Bytes)
    (index : UInt32) (interface : Option String) (statistics : Statistics) : Guard Handled := do
  let ingress := Relay.counted interface
  if !state.settings.relayEnabled then
    return .dropped .disabled statistics
  else
    match Dhcp4.checkHeader message with
    | .error fault => return .dropped (.malformed fault) (statistics.bump ingress .badPackets)
    | .ok () =>
        let operation ← byte message 0
        let statistics :=
          match Counter.ofMessage operation (← typeOf message) with
          | some counter => statistics.bump ingress counter
          | none => statistics
        if operation = Dhcp4.requestOperation then
          return (← relayRequest state network view.source message index interface).finish
            statistics ingress .v4ClientRelayed .v4ClientDropped ingress
        else if operation = Dhcp4.replyOperation then
          if view.destination = IPv4.broadcast then
            return .dropped .broadcastReply statistics
          else
            match ← replyInterface state message with
            | .error reason =>
                return Relaying.finish (.error reason) statistics ingress .v4ServerRelayed
                  .v4ServerDropped ingress
            | .ok (index, egress) =>
                return (← deliver state network message index egress).finish statistics egress
                  .v4ServerRelayed .v4ServerDropped egress
        else
          return .dropped (.malformed (.malformedHeader .bootpOperation))
            (statistics.bump ingress .badPackets)

theorem receiveBootp_eq (state : Relay) (network : Network) (view : DatagramView)
    (message : Bytes) (index : UInt32) (interface : Option String) (statistics : Statistics) :
    receiveBootp state network view message index interface statistics =
      .ok (state.receiveBootp network view message index interface statistics) := by
  rw [receiveBootp, Relay.receiveBootp, Dhcp4.checkHeader]
  cases state.settings.relayEnabled with
  | false => rfl
  | true =>
      simp only [Bool.not_true, Bool.false_eq_true, if_false]
      by_cases short : message.length < Dhcp4.headerSize
      · rw [if_pos short]
        rfl
      · have whole : Dhcp4.headerSize ≤ message.length := Nat.not_lt.1 short
        have size : 236 ≤ message.length := whole
        have operation : byte message 0 = .ok (Dhcp4.operation message) := byte_eq (by omega)
        rw [if_neg short]
        dsimp only
        rw [operation, ok_bind, typeOf_eq whole, ok_bind, relayRequest_eq state network _ whole,
          ok_bind, replyInterface_eq state whole, ok_bind]
        split
        · rfl
        split
        · split
          · rfl
          · cases state.replyInterface message with
            | error reason => rfl
            | ok out =>
                dsimp only
                rw [deliver_eq state network whole]
                rfl
        · rfl

/-! ## The forwarder -/

/-- The headers of the datagram that goes on to a server. -/
def forwardedHeader (view : DatagramView) (source : IPv4) (timeToLive : UInt8)
    (server : IPv4) : DatagramHeader where
  source := source
  destination := server
  sourcePort := view.sourcePort
  destinationPort := view.destinationPort
  timeToLive := timeToLive

/-- Write the datagram for a server over a buffer and send it.  Gives the buffer
afterwards, too. -/
def forwardTo (network : Network) (view : DatagramView) (payload : Bytes) (interface : String)
    (source : IPv4) (buffer : Bytes) (server : IPv4) :
    Guard (Except DropCause (Effect × Bytes)) := do
  let timeToLive ← decrement view.timeToLive
  match ← encode buffer (forwardedHeader view source timeToLive server) payload with
  | .error fault => return .error (.malformed fault)
  | .ok (length, buffer) =>
      let datagram ← slice buffer 0 length
      return .ok (.attempt (.send network (.broadcastToServer interface server)
        (.raw4 datagram server)), buffer)

/-- Send a payload on to each of the servers, from one and the same buffer. -/
def forwardAll (network : Network) (view : DatagramView) (payload : Bytes)
    (interface : String) (source : IPv4) (buffer : Bytes) : List IPv4 → Guard Relaying
  | [] => .ok (.ok [])
  | server :: rest =>
      proceed (forwardTo network view payload interface source buffer server)
        fun (effect, buffer) =>
          proceed (forwardAll network view payload interface source buffer rest) fun later =>
            .ok (.ok (effect :: later))

/-- Forward the payload of the datagram that was decoded to `view`. -/
def forward (state : Relay) (network : Network) (view : DatagramView) (datagram : Bytes)
    (index : UInt32) (interface : Option String) : Guard Relaying := do
  if !state.settings.udpForwarderEnabled then
    return .error .disabled
  else if !state.isBroadcast view.destination then
    return .error .notBroadcast
  else if view.timeToLive ≤ 1 then
    return .error .ttlExpired
  else
    match interface with
    | none => return .error (.unknownInterface index)
    | some interface =>
        let servers := state.portServers interface view.destinationPort
        if servers.isEmpty then
          return .error (.noServerForPort view.destinationPort)
        else
          match state.forwardSource view.source interface with
          | .error reason => return .error reason
          | .ok source =>
              let payload ← payload view datagram
              let buffer := List.replicate (ipv4HeaderSize + udpHeaderSize + payload.length) 0
              forwardAll network view payload interface source buffer servers

/-- What goes on to a server, as the forwarder has it. -/
def forwarded (network : Network) (view : DatagramView) (payload : Bytes) (interface : String)
    (source : IPv4) (server : IPv4) : Except DropCause Effect := do
  let datagram ← Relay.forwardedDatagram
    (forwardedHeader view source (view.timeToLive - 1) server) payload
  return .attempt (.send network (.broadcastToServer interface server) (.raw4 datagram server))

variable {view : DatagramView}

section

variable {payload buffer : Bytes}

theorem forwardTo_eq (network : Network) (interface : String) (source : IPv4)
    (alive : view.timeToLive ≠ 0)
    (size : buffer.length = ipv4HeaderSize + udpHeaderSize + payload.length) (server : IPv4) :
    let header := forwardedHeader view source (view.timeToLive - 1) server
    forwardTo network view payload interface source buffer server =
      .ok ((forwarded network view payload interface source server).map
        fun effect => (effect, Datagram.bytes header payload)) := by
  intro header
  let blank : Bytes := List.replicate (ipv4HeaderSize + udpHeaderSize + payload.length) 0
  have blankSize : blank.length = buffer.length := List.length_replicate.trans size.symm
  have written : (Datagram.bytes header payload).length = buffer.length :=
    (Datagram.length_bytes header payload).trans size.symm
  have one : Datagram.encode blank header payload = Datagram.encode buffer header payload := by
    rw [Datagram.encode_of_length (blankSize.trans size), Datagram.encode_of_length size, blankSize]
  have whole : slice (Datagram.bytes header payload) 0 buffer.length =
      .ok (Datagram.bytes header payload) := by
    rw [slice_eq (Nat.zero_le _) (Nat.le_of_eq written.symm), Bytes.slice, Nat.sub_zero, ← written,
      List.drop_zero, List.take_length]
  rw [forwardTo, forwarded, Relay.forwardedDatagram, decrement_eq alive, ok_bind, encode_eq,
    ok_bind]
  change _ = Except.ok (Except.map _ (_ >>= _))
  rw [one, Datagram.encode_of_length size]
  by_cases long : 65535 < buffer.length
  · rw [if_pos long]
    rfl
  · rw [if_neg long]
    change (slice (Datagram.bytes header payload) 0 buffer.length >>= _) = _
    rw [whole]
    rfl

theorem forwardAll_eq (network : Network) (interface : String) (source : IPv4)
    (alive : view.timeToLive ≠ 0)
    (size : buffer.length = ipv4HeaderSize + udpHeaderSize + payload.length)
    (servers : List IPv4) :
    forwardAll network view payload interface source buffer servers =
      .ok (servers.mapM (forwarded network view payload interface source)) := by
  -- The datagram before stays in the buffer, which keeps its size.
  induction servers generalizing buffer with
  | nil => rfl
  | cons server rest ih =>
      rw [forwardAll, forwardTo_eq network interface source alive size, List.mapM_cons]
      cases forwarded network view payload interface source server with
      | error reason => rfl
      | ok effect =>
          change proceed (forwardAll network view payload interface source _ rest) _ = _
          rw [ih (Datagram.length_bytes _ payload)]
          exact proceed_eq fun later _ => rfl

end

theorem forward_eq (state : Relay) (network : Network) {datagram : Bytes}
    (decoded : Datagram.decode datagram = .ok view) (index : UInt32)
    (interface : Option String) :
    forward state network view datagram index interface =
      .ok (state.forward network view (view.payload datagram) index interface) := by
  unfold forward Relay.forward
  split
  · rfl
  split
  · rfl
  split
  · rfl
  rename_i alive
  have positive : view.timeToLive ≠ 0 := by
    intro zero
    exact alive (zero ▸ by decide)
  cases interface with
  | none => rfl
  | some interface =>
      dsimp only
      split
      · rfl
      · cases state.forwardSource view.source interface with
        | error reason => rfl
        | ok source =>
            dsimp only
            rw [payload_eq decoded, ok_bind,
              forwardAll_eq network interface source positive List.length_replicate]
            rfl

/-! ## Datagrams -/

/-- Handle an IPv4 datagram that came in on an interface. -/
def receive4 (state : Relay) (network : Network) (datagram : Bytes) (index : UInt32) :
    Guard Handled := do
  let interface := state.links.name? index
  let ingress := Relay.counted interface
  let statistics := state.statistics.touch ingress
  match ← decode datagram with
  | .error fault => return .dropped (.malformed fault) (statistics.bump ingress .badPackets)
  | .ok view =>
      if view.destinationPort = Dhcp4.serverPort ∨ view.destinationPort = Dhcp4.clientPort then
        let payload ← payload view datagram
        receiveBootp state network view payload index interface statistics
      else
        let relaying ← forward state network view datagram index interface
        return relaying.finish statistics ingress .udpForwarded .udpDropped ingress

theorem receive4_eq (state : Relay) (network : Network) (datagram : Bytes) (index : UInt32) :
    receive4 state network datagram index = .ok (state.receive4 network datagram index) := by
  rw [receive4, Relay.receive4, decode_eq, ok_bind]
  cases decoded : Datagram.decode datagram with
  | error fault => rfl
  | ok view =>
      dsimp only
      rw [payload_eq decoded, ok_bind, receiveBootp_eq, forward_eq state network decoded, ok_bind]
      split <;> rfl

end DhcpRelay.Guarded
