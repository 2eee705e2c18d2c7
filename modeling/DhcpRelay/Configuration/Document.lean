import DhcpRelay.Configuration.Settings
import DhcpRelay.Configuration.Target
import DhcpRelay.Text.Blank
import DhcpRelay.Text.Json

/-!
# Configuration documents

A document holds the settings of the relay as texts and a row per interface with
the servers it relays to.  Reading a document checks its form only; addresses
and names are read when they are needed.
-/

namespace DhcpRelay

/-- A DHCPv6 group and the interfaces to reach it through. -/
structure GroupRow where
  address : String
  egressPorts : List String
  deriving DecidableEq, Repr

/-- The servers of an interface, as they are written. -/
structure Row where
  name : String
  vrf : Option String
  ipv4Helpers : List String
  udpTargets : List String
  ipv6Unicast : List String
  ipv6Multicast : List GroupRow
  deriving DecidableEq, Repr

/-- A configuration. -/
structure Document where
  defaultVrf : String
  options : Table String String
  interfaces : List Row

namespace GroupRow

/-- Read a row. -/
def ofJson (json : Json) : Option GroupRow := do
  match ← json.fields ["address", "egress_ports"] with
  | [address, egressPorts] =>
      return {
        address := ← Json.field Json.asString "" address
        egressPorts := ← Json.field (Json.asList Json.asString) [] egressPorts }
  | _ => none

/-- Write a row. -/
def toJson (row : GroupRow) : Json :=
  .ofMembers [("address", .ofText row.address), ("egress_ports", .ofTexts row.egressPorts)]

end GroupRow

namespace Row

/-- Read a row. -/
def ofJson (json : Json) : Option Row := do
  let names := ["name", "vrf", "ipv4_helper_addresses", "udp_forward_servers",
    "ipv6_unicast_servers", "ipv6_multicast_servers"]
  match ← json.fields names with
  | [name, vrf, ipv4Helpers, udpTargets, ipv6Unicast, ipv6Multicast] =>
      return {
        name := ← Json.field Json.asString "" name
        vrf := ← Json.field (Json.asOption Json.asString) none vrf
        ipv4Helpers := ← Json.field (Json.asList Json.asString) [] ipv4Helpers
        udpTargets := ← Json.field (Json.asList Json.asString) [] udpTargets
        ipv6Unicast := ← Json.field (Json.asList Json.asString) [] ipv6Unicast
        ipv6Multicast := ← Json.field (Json.asList GroupRow.ofJson) [] ipv6Multicast }
  | _ => none

/-- Write a row, every field of it. -/
def toJson (row : Row) : Json :=
  .ofMembers [("name", .ofText row.name), ("vrf", row.vrf.elim .null .ofText),
    ("ipv4_helper_addresses", .ofTexts row.ipv4Helpers),
    ("udp_forward_servers", .ofTexts row.udpTargets),
    ("ipv6_unicast_servers", .ofTexts row.ipv6Unicast),
    ("ipv6_multicast_servers", .array (row.ipv6Multicast.map (·.toJson)))]

/-- The row belongs to the VRF that is served. -/
def isIn (row : Row) (served : String) : Bool :=
  row.vrf.all (· == served)

/-- Read an IPv4 address with blanks around it. -/
def readIPv4 (written : String) : Except ConfigFault IPv4 :=
  match IPv4.read (Text.trim written) with
  | some address => .ok address
  | none => .error (.invalidAddress written)

/-- Read an IPv6 address with blanks around it. -/
def readIPv6 (written : String) : Except ConfigFault IPv6 :=
  match IPv6.read (Text.trim written) with
  | some address => .ok address
  | none => .error (.invalidAddress written)

/-- Read a DHCPv6 server that is not a group. -/
def readUnicast (written : String) : Except ConfigFault Server6 := do
  let address ← readIPv6 written
  if address.isMulticast then .error (.invalidAddress written) else .ok ⟨address, none⟩

/-- Read a DHCPv6 group, which is reached through one interface at least. -/
def readMulticast (row : GroupRow) : Except ConfigFault (List Server6) := do
  let address ← readIPv6 row.address
  if !address.isMulticast then
    .error (.invalidAddress row.address)
  else if row.egressPorts.isEmpty then
    .error (.invalidValue "egress_ports" row.address)
  else
    .ok (row.egressPorts.map fun egress => ⟨address, some egress⟩)

/-- The DHCPv4 servers, then the targets of the forwarder. -/
def servers4 (row : Row) : Except ConfigFault (List Server4) := do
  let helpers ← row.ipv4Helpers.mapM readIPv4
  let targets ← row.udpTargets.mapM Server4.read
  return helpers.map Server4.dhcp ++ targets

/-- The unicast servers, then the groups once for each interface. -/
def servers6 (row : Row) : Except ConfigFault (List Server6) := do
  let servers ← row.ipv6Unicast.mapM readUnicast
  let groups ← row.ipv6Multicast.mapM readMulticast
  return servers ++ groups.flatten

end Row

namespace Document

/-- The VRF that is served unless the document names another. -/
def standardVrf : String := "vrf_default"

/-- Read a table of texts; of a repeated key the last value counts. -/
def readOptions : Json → Option (Table String String)
  | .object members => do
      let members ← Json.namedMembers members
      members.foldlM (fun table (key, value) => value.asString.map (table.put key)) .empty
  | _ => none

/-- Read a document from a JSON value. -/
def ofJson (json : Json) : Option Document := do
  match ← json.fields ["default_vrf", "other_config", "interfaces"] with
  | [defaultVrf, options, interfaces] =>
      return {
        defaultVrf := ← Json.field Json.asString standardVrf defaultVrf
        options := ← Json.field readOptions .empty options
        interfaces := ← Json.field (Json.asList Row.ofJson) [] interfaces }
  | _ => none

/-- Write a document, every field of it. -/
def toJson (document : Document) : Json :=
  .ofMembers [("default_vrf", .ofText document.defaultVrf),
    ("other_config", .ofMembers (document.options.entries.map fun (key, value) =>
      (key, .ofText value))),
    ("interfaces", .array (document.interfaces.map (·.toJson)))]

/-- Read a document. -/
def read (text : String) : Except ConfigFault Document :=
  match (Json.read text).bind ofJson with
  | some document => .ok document
  | none => .error .json

/-- Read a document from the content of a file, or from the failure to read it. -/
def ofContent (content : Except SystemFault Bytes) : Except ConfigFault Document :=
  match content with
  | .error fault => .error (.io fault)
  | .ok bytes =>
      match String.fromUTF8? ⟨bytes.toArray⟩ with
      | none => .error (.io .notText)
      | some text => read text

/-- The settings that a document asks for. -/
def settings (document : Document) : Except ConfigFault Settings :=
  Settings.ofOptions document.options

/-- Check a row on its own. -/
def checkRow (row : Row) : Except ConfigFault Unit := do
  if row.name.isEmpty then .error (.invalidValue "name" "")
  else
    let _ ← row.servers4
    let _ ← row.servers6
    .ok ()

/-- Check the settings and every row, whatever its VRF. -/
def check (document : Document) : Except ConfigFault Unit := do
  let _ ← document.settings
  document.interfaces.forM checkRow

end Document

end DhcpRelay
