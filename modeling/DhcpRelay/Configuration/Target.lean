import DhcpRelay.Configuration.Fault
import DhcpRelay.Servers.Basic

/-!
# Targets of the broadcast forwarder

A target is written `address:port`; the port is a number other than zero or the
name of a well-known service.
-/

namespace DhcpRelay

namespace UdpPort

/-- The services known by name. -/
def names : List (String × UInt16) :=
  [("dns", 53), ("ntp", 123), ("netbios-ns", 137), ("netbios-dgm", 138), ("radius", 1812),
    ("radius-old", 1645), ("rip", 520), ("snmp", 161), ("snmp-trap", 162), ("tftp", 69),
    ("timep", 37)]

/-- The name of a port. -/
def name? (port : UInt16) : Option String :=
  (names.find? (·.2 == port)).map Prod.fst

/-- Read a port by number or name. -/
def read (written : String) : Except ConfigFault UInt16 :=
  match Decimal.readWord16 written with
  | some port => if port = 0 then .error (.invalidValue "port" written) else .ok port
  | none =>
      match names.find? (·.1 == written) with
      | some (_, port) => .ok port
      | none => .error (.unknownProtocol written)

end UdpPort

namespace Server4

/-- The characters before and after the last colon. -/
def splitLastColon (chars : List Char) : Option (List Char × List Char) :=
  let behind := chars.reverse.takeWhile (· != ':')
  if behind.length = chars.length then
    none
  else
    some (chars.take (chars.length - behind.length - 1), behind.reverse)

/-- Read a target. -/
def read (written : String) : Except ConfigFault Server4 :=
  match splitLastColon written.toList with
  | none => .error (.invalidAddress written)
  | some (address, port) =>
      match IPv4.readChars address with
      | none => .error (.invalidAddress written)
      | some address => do
          return ⟨address, ← UdpPort.read (String.ofList port)⟩

end Server4

end DhcpRelay
