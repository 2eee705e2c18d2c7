import DhcpRelay.Log
import DhcpRelay.Table
import DhcpRelay.Text.Decimal
import DhcpRelay.Text.Json

/-!
# Counters

The relay counts per interface what it did.  The counters of an interface exist
from its first packet on; packets of unknown interfaces count under `-`.
-/

namespace DhcpRelay

/-- What is counted. -/
inductive Counter where
  | v4ClientRelayed
  | v4ClientDropped
  | v4ServerRelayed
  | v4ServerDropped
  | discover
  | request
  | inform
  | release
  | decline
  | bootpRequest
  | offer
  | ack
  | nak
  | bootpReply
  | badPackets
  | udpForwarded
  | udpDropped
  | v6ClientRelayed
  | v6ClientDropped
  | v6ServerRelayed
  | v6ServerDropped
  | sendFailures
  deriving DecidableEq, Repr

namespace Counter

/-- All counters in the order of reports. -/
def all : List Counter :=
  [v4ClientRelayed, v4ClientDropped, v4ServerRelayed, v4ServerDropped, discover, request, inform,
    release, decline, bootpRequest, offer, ack, nak, bootpReply, badPackets, udpForwarded,
    udpDropped, v6ClientRelayed, v6ClientDropped, v6ServerRelayed, v6ServerDropped, sendFailures]

/-- The name of a counter in reports. -/
def name : Counter → String
  | v4ClientRelayed => "v4_client_relayed"
  | v4ClientDropped => "v4_client_dropped"
  | v4ServerRelayed => "v4_server_relayed"
  | v4ServerDropped => "v4_server_dropped"
  | discover => "discover"
  | request => "request"
  | inform => "inform"
  | release => "release"
  | decline => "decline"
  | bootpRequest => "bootp_request"
  | offer => "offer"
  | ack => "ack"
  | nak => "nak"
  | bootpReply => "bootp_reply"
  | badPackets => "bad_packets"
  | udpForwarded => "udp_forwarded"
  | udpDropped => "udp_dropped"
  | v6ClientRelayed => "v6_client_relayed"
  | v6ClientDropped => "v6_client_dropped"
  | v6ServerRelayed => "v6_server_relayed"
  | v6ServerDropped => "v6_server_dropped"
  | sendFailures => "send_failures"

/-- The counter of a received DHCPv4 message.  Messages without a type are
BOOTP; those of other types are not counted. -/
def ofMessage (operation : UInt8) : Option UInt8 → Option Counter
  | some 1 => some discover
  | some 2 => some offer
  | some 3 => some request
  | some 4 => some decline
  | some 5 => some ack
  | some 6 => some nak
  | some 7 => some release
  | some 8 => some inform
  | some _ => none
  | none => some (if operation = 1 then bootpRequest else bootpReply)

end Counter

/-- The counters of one interface that are not zero. -/
abbrev Counters := Table Counter Nat

/-- The value of a counter. -/
def Counters.value (counters : Counters) (counter : Counter) : Nat :=
  (counters.get? counter).getD 0

/-- The counters of all interfaces. -/
abbrev Statistics := Table String Counters

namespace Statistics

/-- The name that packets of unknown interfaces count under. -/
def unknownInterface : String := "-"

/-- The counters of an interface, all zero if it has none. -/
def countersOf (statistics : Statistics) (interface : String) : Counters :=
  (statistics.get? interface).getD .empty

/-- The value of a counter of an interface. -/
def value (statistics : Statistics) (interface : String) (counter : Counter) : Nat :=
  (statistics.countersOf interface).value counter

/-- Make sure that an interface has counters. -/
def touch (statistics : Statistics) (interface : String) : Statistics :=
  if statistics.contains interface then statistics else statistics.put interface .empty

/-- Raise a counter of an interface by `amount`. -/
def add (statistics : Statistics) (interface : String) (counter : Counter) (amount : Nat) :
    Statistics :=
  let counters := statistics.countersOf interface
  statistics.put interface
    (if amount = 0 then counters else counters.put counter (counters.value counter + amount))

/-- Raise a counter of an interface by one. -/
def bump (statistics : Statistics) (interface : String) (counter : Counter) : Statistics :=
  statistics.add interface counter 1

/-- The interfaces that have counters, sorted. -/
def interfaces (statistics : Statistics) : List String :=
  statistics.keys.mergeSort fun left right => left ≤ right

@[simp] theorem value_add_self (statistics : Statistics) (interface : String)
    (counter : Counter) (amount : Nat) :
    (statistics.add interface counter amount).value interface counter =
      statistics.value interface counter + amount := by
  by_cases zero : amount = 0
  · simp [add, value, countersOf, zero]
  · simp [add, value, countersOf, zero, Counters.value]

theorem value_add_of_ne_counter (statistics : Statistics) (interface : String)
    {counter other : Counter} (amount : Nat) (different : other ≠ counter) :
    (statistics.add interface counter amount).value interface other =
      statistics.value interface other := by
  by_cases zero : amount = 0
  · simp [add, value, countersOf, zero]
  · simp [add, value, countersOf, zero, Counters.value, Table.get?_put_of_ne _ _ different]

theorem value_add_of_ne_interface (statistics : Statistics) {interface other : String}
    (counter counted : Counter) (amount : Nat) (different : other ≠ interface) :
    (statistics.add interface counter amount).value other counted =
      statistics.value other counted := by
  simp [add, value, countersOf, Table.get?_put_of_ne _ _ different]

/-! ## Reports -/

/-- All counters of an interface. -/
def countersJson (statistics : Statistics) (interface : String) : Json :=
  .ofMembers (Counter.all.map fun counter =>
    (counter.name, .ofNat (statistics.value interface counter)))

/-- All counters as a JSON text. -/
def render (statistics : Statistics) (timestamp : String) : String :=
  let interfaces := statistics.interfaces.map fun interface =>
    (interface, statistics.countersJson interface)
  (Json.ofMembers
    [("timestamp", .ofText timestamp), ("interfaces", .ofMembers interfaces)]).text ++ "\n"

/-- The counters of the periodic log line. -/
def logged : List Counter :=
  [.v4ClientRelayed, .v4ClientDropped, .v4ServerRelayed, .v4ServerDropped, .udpForwarded,
    .v6ClientRelayed, .v6ServerRelayed, .sendFailures]

/-- The periodic log lines, one for each interface. -/
def notices (statistics : Statistics) : List Notice :=
  statistics.interfaces.map fun interface =>
    { level := .info
      component := "mvirt_relay::stats"
      message := "Relay statistics"
      fields := ("iface", interface) :: logged.map fun counter =>
        (counter.name, Decimal.text (statistics.value interface counter)) }

end Statistics

end DhcpRelay
