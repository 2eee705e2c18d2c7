import DhcpRelay.Topology.Basic

/-!
# Topologies from the system's address list

The system lists one address at a time.  Records of one name make up one
interface; the first of them says its index and whether it is a loopback.
-/

namespace DhcpRelay

/-- An address of an interface as the system lists it. -/
inductive ListedAddress where
  | ipv4 (address : IPv4) (mask : Option IPv4)
  | ipv6 (address : IPv6)
  | hardware (mac : Option Mac)
  deriving DecidableEq, Repr

/-- A record of the system's address list. -/
structure AddressRecord where
  name : String
  index : UInt32
  loopback : Bool
  address : Option ListedAddress
  deriving DecidableEq, Repr

namespace AddressRecord

/-- The number of bits that are set in a mask. -/
def maskLength (mask : IPv4) : Nat :=
  (List.range 32).countP fun bit => mask.number.testBit bit

/-- An interface with one more address. -/
def extend (link : Link) : Option ListedAddress → Link
  | none => link
  | some (.ipv4 address mask) =>
      { link with ipv4 := link.ipv4 ++ [⟨address, (mask.map maskLength).getD 32⟩] }
  | some (.ipv6 address) => { link with ipv6 := link.ipv6 ++ [address] }
  | some (.hardware mac) => { link with mac := mac }

/-- Interfaces with one more record taken in. -/
def insert (record : AddressRecord) : List Link → List Link
  | [] => [extend ⟨record.index, record.name, none, record.loopback, [], []⟩ record.address]
  | link :: rest =>
      if link.name = record.name then extend link record.address :: rest
      else link :: insert record rest

end AddressRecord

/-- The topology of the interfaces that the system lists. -/
def Topology.ofRecords (records : List AddressRecord) : Topology :=
  .ofLinks (records.foldl (fun links record => record.insert links) [])

end DhcpRelay
