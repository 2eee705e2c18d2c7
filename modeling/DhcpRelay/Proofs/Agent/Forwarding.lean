import DhcpRelay.Proofs.Agent.Dispatch
import DhcpRelay.Proofs.Agent.FanOut
import DhcpRelay.Proofs.Agent.ReplyValidation
import DhcpRelay.Proofs.Guarded.Datagram
import DhcpRelay.Proofs.Net.Datagram

/-!
# The way of broadcasts

A broadcast for any other port stays, or a copy of it goes out to each server of its
interface with that port.  `GoesOn` collects what decides between the two, and `IsCopy` is
what the server finds in its copy.
-/

namespace DhcpRelay.Relay

variable {state : Relay} {network : Network} {datagram payload : Bytes} {view : DatagramView}
  {index : UInt32} {interface : String} {source : IPv4}

/-! ## Copies -/

/-- The source of the copies: that of the broadcast, or the first address of the interface
where the broadcast has none. -/
def IsSource (state : Relay) (view : DatagramView) (interface : String) (source : IPv4) : Prop :=
  if view.source = .unspecified then state.links.ipv4? interface = some source
  else source = view.source

/-- A broadcast goes on from an interface that has servers for its port, unless it has no
time left to live.  A datagram with a header length below twenty bytes may have more payload
than fits behind a whole header. -/
structure GoesOn (state : Relay) (view : DatagramView) (payload : Bytes) (index : UInt32)
    (interface : String) (source : IPv4) : Prop where
  enabled : state.settings.udpForwarderEnabled = true
  broadcast : view.destination = .broadcast ∨
    state.links.isDirectedBroadcast view.destination = true
  alive : 2 ≤ view.timeToLive.toNat
  named : state.links.name? index = some interface
  served : ∃ server ∈ state.servers4.serversOf interface, server.port = view.destinationPort
  source : state.IsSource view interface source
  fits : Datagram.Fits payload

/-- The header of the copy for a server. -/
def copyHeader (view : DatagramView) (source server : IPv4) : DatagramHeader where
  source := source
  destination := server
  sourcePort := view.sourcePort
  destinationPort := view.destinationPort
  timeToLive := view.timeToLive - 1

/-- The datagram is read as the broadcast, sent by `source` to a server and one hop older. -/
structure IsCopy (view : DatagramView) (payload : Bytes) (source server : IPv4) (copy : Bytes) :
    Prop where
  hasValidChecksums : Datagram.hasValidChecksums copy = true
  decoded : ∃ read, Datagram.decode copy = .ok read ∧
    read.payload copy = payload ∧
    read.source = source ∧ read.destination = server ∧
    read.sourcePort = view.sourcePort ∧ read.destinationPort = view.destinationPort ∧
    read.timeToLive.toNat + 1 = view.timeToLive.toNat ∧ read.timeToLive ≠ 0

theorem isCopy_bytes (fits : Datagram.Fits payload) (alive : 2 ≤ view.timeToLive.toNat)
    (source server : IPv4) :
    IsCopy view payload source server
      (Datagram.bytes (copyHeader view source server) payload) := by
  have one : (1 : UInt8) ≤ view.timeToLive := UInt8.le_iff_toNat_le.2 (by
    change 1 ≤ view.timeToLive.toNat
    omega)
  have older : (view.timeToLive - 1).toNat + 1 = view.timeToLive.toNat := by
    rw [UInt8.toNat_sub_of_le _ _ one]
    change view.timeToLive.toNat - 1 + 1 = view.timeToLive.toNat
    omega
  refine ⟨Datagram.hasValidChecksums_bytes fits _, _, Datagram.decode_bytes fits _,
    Datagram.payload_writtenView .., rfl, rfl, rfl, rfl, older, ?_⟩
  intro zero
  have none : (view.timeToLive - 1).toNat = 0 := congrArg UInt8.toNat zero
  omega

/-- A packet for each server of an interface that has the port of the broadcast. -/
def copyPackets (state : Relay) (view : DatagramView) (interface : String)
    (copy : IPv4 → Bytes) : List (Purpose × Transmission) :=
  (state.portServers interface view.destinationPort).map fun server =>
    (.broadcastToServer interface server, .raw4 (copy server) server)

theorem portServers_ne_nil_iff {port : UInt16} :
    state.portServers interface port ≠ [] ↔
      ∃ server ∈ state.servers4.serversOf interface, server.port = port := by
  simp [portServers, List.filter_eq_nil_iff]

/-! ## Forwarding -/

theorem alive_iff {timeToLive : UInt8} : ¬ timeToLive ≤ 1 ↔ 2 ≤ timeToLive.toNat := by
  rw [UInt8.le_iff_toNat_le]
  exact Nat.not_le

theorem isBroadcast_iff {destination : IPv4} :
    state.isBroadcast destination = true ↔
      destination = .broadcast ∨ state.links.isDirectedBroadcast destination = true := by
  rw [isBroadcast, Bool.or_eq_true, beq_iff_eq]

theorem forwardSource_eq_ok_iff :
    state.forwardSource view.source interface = .ok source ↔
      state.IsSource view interface source := by
  rw [forwardSource, IsSource]
  split
  · cases state.links.ipv4? interface <;> simp
  · simp [eq_comm]

theorem ne_sendFailed_of_forwardSource {reason : DropCause}
    (failed : state.forwardSource view.source interface = .error reason) :
    reason ≠ .sendFailed := by
  rw [forwardSource] at failed
  split at failed
  · split at failed
    · cases failed
    · cases failed
      simp
  · cases failed

theorem forwardedDatagram_eq (header : DatagramHeader) (payload : Bytes) :
    forwardedDatagram header payload =
      if 65535 < ipv4HeaderSize + udpHeaderSize + payload.length then
        .error (.malformed (.malformedHeader .datagramTooLong))
      else .ok (Datagram.bytes header payload) := by
  let count := ipv4HeaderSize + udpHeaderSize + payload.length
  have size : (List.replicate count (0 : UInt8)).length = count := List.length_replicate
  rw [forwardedDatagram, Datagram.encode_of_length size, size]
  by_cases long : 65535 < ipv4HeaderSize + udpHeaderSize + payload.length
  · rw [if_pos long, if_pos long]
  · rw [if_neg long, if_neg long]

/-- The effect of forwarding to a server. -/
def forwardTo (network : Network) (view : DatagramView) (payload : Bytes) (interface : String)
    (source server : IPv4) : Except DropCause Effect := do
  let datagram ← forwardedDatagram (copyHeader view source server) payload
  return .attempt (.send network (.broadcastToServer interface server) (.raw4 datagram server))

theorem mapM_forwardTo_of_fits (fits : Datagram.Fits payload) (network : Network)
    (view : DatagramView) (interface : String) (source : IPv4) (servers : List IPv4) :
    servers.mapM (forwardTo network view payload interface source) =
      .ok (servers.map fun server =>
        .attempt (.send network (.broadcastToServer interface server)
          (.raw4 (Datagram.bytes (copyHeader view source server) payload) server))) := by
  have each : forwardTo network view payload interface source = fun server =>
      pure (.attempt (.send network (.broadcastToServer interface server)
        (.raw4 (Datagram.bytes (copyHeader view source server) payload) server))) := by
    funext server
    rw [forwardTo, forwardedDatagram_eq, if_neg (Nat.not_lt.2 fits)]
    rfl
  rw [each]
  exact List.mapM_pure

theorem mapM_forwardTo_of_not_fits (long : ¬ Datagram.Fits payload) (network : Network)
    (view : DatagramView) (interface : String) (source : IPv4) {servers : List IPv4}
    (some : servers ≠ []) :
    servers.mapM (forwardTo network view payload interface source) =
      .error (.malformed (.malformedHeader .datagramTooLong)) := by
  cases servers with
  | nil => exact absurd rfl some
  | cons server rest =>
      rw [List.mapM_cons, forwardTo, forwardedDatagram_eq, if_pos (Nat.not_le.1 long)]
      rfl

/-- What becomes of a broadcast that goes as far as the servers of its interface. -/
theorem forward_of_named (enabled : state.settings.udpForwarderEnabled = true)
    (broadcast : view.destination = .broadcast ∨
      state.links.isDirectedBroadcast view.destination = true)
    (alive : 2 ≤ view.timeToLive.toNat)
    (served : state.portServers interface view.destinationPort ≠ []) (network : Network)
    (payload : Bytes) (index : UInt32) :
    state.forward network view payload index (some interface) =
      (state.forwardSource view.source interface >>= fun source =>
        (state.portServers interface view.destinationPort).mapM
          (forwardTo network view payload interface source)) := by
  have young := alive_iff.2 alive
  have forAll := isBroadcast_iff.2 broadcast
  have some := List.isEmpty_eq_false_iff.2 served
  simp only [forward, enabled, forAll, young, some, Bool.not_true, Bool.false_eq_true, if_false]
  rfl

theorem forward_of_goesOn (goes : state.GoesOn view payload index interface source)
    (network : Network) :
    state.forward network view payload index (state.links.name? index) =
      .ok ((sends network (state.copyPackets view interface fun server =>
        Datagram.bytes (copyHeader view source server) payload)).map .attempt) := by
  have found := forwardSource_eq_ok_iff.2 goes.source
  rw [goes.named, forward_of_named goes.enabled goes.broadcast goes.alive
    (portServers_ne_nil_iff.2 goes.served), found]
  change _ = Except.ok _
  rw [sends, copyPackets, List.map_map, List.map_map]
  exact mapM_forwardTo_of_fits goes.fits network view interface source _

/-- Any other broadcast stays, for a reason that no network gave. -/
theorem forward_of_stays
    (stays : ¬ ∃ interface source, state.GoesOn view payload index interface source)
    (network : Network) :
    ∃ reason,
      state.forward network view payload index (state.links.name? index) = .error reason ∧
      reason ≠ .sendFailed := by
  unfold forward
  split
  · exact ⟨.disabled, rfl, by simp⟩
  rename_i enabled
  split
  · exact ⟨.notBroadcast, rfl, by simp⟩
  rename_i forAll
  split
  · exact ⟨.ttlExpired, rfl, by simp⟩
  rename_i young
  cases named : state.links.name? index with
  | none => exact ⟨.unknownInterface index, rfl, by simp⟩
  | some interface =>
      dsimp only
      split
      · exact ⟨.noServerForPort view.destinationPort, rfl, by simp⟩
      rename_i some
      have served := mt List.isEmpty_iff.2 some
      cases found : state.forwardSource view.source interface with
      | error reason => exact ⟨reason, rfl, ne_sendFailed_of_forwardSource found⟩
      | ok source =>
          rw [Bool.not_eq_true', Bool.not_eq_false] at enabled forAll
          refine ⟨.malformed (.malformedHeader .datagramTooLong), ?_, by simp⟩
          refine mapM_forwardTo_of_not_fits (fun fits => ?_) network view interface source served
          exact stays ⟨interface, source, enabled, isBroadcast_iff.1 forAll,
            alive_iff.1 young, named, portServers_ne_nil_iff.1 served,
            forwardSource_eq_ok_iff.1 found, fits⟩

/-! ## Handling a broadcast -/

theorem receive4_of_not_forDhcp (decoded : Datagram.decode datagram = .ok view)
    (other : ¬ ForDhcp view) (network : Network) (index : UInt32) :
    let ingress := counted (state.links.name? index)
    state.receive4 network datagram index =
      (state.forward network view (view.payload datagram) index (state.links.name? index)).finish
        (state.statistics.touch ingress) ingress .udpForwarded .udpDropped ingress := by
  intro ingress
  rw [receive4, decoded]
  exact if_neg other

/-- A datagram for another port stays, with nothing sent, unless it is a broadcast that goes
on.  Then every server with its port is tried once, in order and with a copy of its own; the
copies that the network takes are sent, and the outcome counts them and the others. -/
theorem stays_or_fansOut_of_broadcast (state : Relay) (network : Network)
    (decoded : Datagram.decode datagram = .ok view) (other : ¬ ForDhcp view) (index : UInt32) :
    let payload := view.payload datagram
    let handled := state.receive4 network datagram index
    (handled.Stays ∧
        ¬ ∃ interface source, state.GoesOn view payload index interface source) ∨
      ∃ interface source copy,
        state.GoesOn view payload index interface source ∧
        (∀ server, IsCopy view payload source server (copy server)) ∧
        let packets := state.copyPackets view interface copy
        handled.effects = (sends network packets).map .attempt ∧
          handled.sent = network.taken packets ∧
          handled.outcome =
            if handled.sent = [] then .dropped .sendFailed
            else .relayed handled.sent.length (packets.length - handled.sent.length) := by
  intro payload handled
  have received : handled = _ := receive4_of_not_forDhcp decoded other network index
  by_cases goes : ∃ interface source, state.GoesOn view payload index interface source
  · right
    rcases goes with ⟨interface, source, goes⟩
    rw [forward_of_goesOn goes] at received
    have some : state.copyPackets view interface (fun server =>
        Datagram.bytes (copyHeader view source server) payload) ≠ [] :=
      mt List.map_eq_nil_iff.1 (portServers_ne_nil_iff.2 goes.served)
    refine ⟨interface, source, _, goes, isCopy_bytes goes.fits goes.alive source, ?_⟩
    rw [received]
    exact finish_sends some ..
  · left
    rcases forward_of_stays goes network with ⟨reason, forwarding, ungiven⟩
    rw [received, forwarding]
    exact ⟨Relaying.stays_finish ungiven .., goes⟩

/-- A relay that forwards broadcasts, with two servers for a port and one for another behind
`eth1`. -/
def forwardingRelay : Relay :=
  let start := Relay.start { Settings.default with udpForwarderEnabled := true } twoLinks
  let servers : List Server4 := [⟨⟨10, 0, 0, 8⟩, 69⟩, ⟨⟨10, 0, 0, 5⟩, 37⟩, ⟨⟨10, 0, 0, 9⟩, 69⟩]
  { start with
    servers4 := (start.servers4.addAll ⟨fun _ => none, fun _ => none⟩ "eth1" servers).roster }

/-- A network that does not reach the first of them. -/
def splitNetwork : Network where
  refusesSend
    | .raw4 _ destination =>
        if destination = ⟨10, 0, 0, 8⟩ then some "no route to host" else none
    | _ => none
  refusesNeighbour := fun _ => none

/-- A client without address asks for a file. -/
def fileRequest : Bytes :=
  Datagram.bytes ⟨.unspecified, .broadcast, 1024, 69, 2⟩ [0, 1, 97]

theorem stays_or_fansOut_fileRequest :
    let handled := forwardingRelay.receive4 splitNetwork fileRequest 3
    ∃ view, Datagram.decode fileRequest = .ok view ∧ ¬ ForDhcp view ∧
      handled.outcome = .relayed 1 1 ∧
      ∃ copy source,
        IsCopy view [0, 1, 97] source ⟨10, 0, 0, 9⟩ copy ∧
        twoLinks.ipv4? "eth1" = some source ∧
        handled.sent = [.raw4 copy ⟨10, 0, 0, 9⟩] := by
  intro handled
  have decoded : Datagram.decode fileRequest =
      .ok ⟨.unspecified, .broadcast, 2, 1024, 69, 28, 3⟩ := by decide +kernel
  have other : ¬ ForDhcp ⟨.unspecified, .broadcast, 2, 1024, 69, 28, 3⟩ := by
    unfold ForDhcp
    decide
  have outcome : handled.outcome = .relayed 1 1 := by decide +kernel
  refine ⟨_, decoded, other, outcome, ?_⟩
  rcases forwardingRelay.stays_or_fansOut_of_broadcast splitNetwork decoded other 3 with
    ⟨⟨_, reason, dropped, _⟩, _⟩ | ⟨interface, source, copy, goes, isCopy, _, sent, _⟩
  · cases outcome.symm.trans dropped
  · cases goes.named
    exact ⟨copy ⟨10, 0, 0, 9⟩, source, isCopy _, goes.source, sent⟩

end DhcpRelay.Relay
