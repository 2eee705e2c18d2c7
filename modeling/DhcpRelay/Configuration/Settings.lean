import DhcpRelay.Configuration.Fault
import DhcpRelay.Dhcp4.Marking
import DhcpRelay.Log
import DhcpRelay.Text.Json

/-!
# Settings of the whole relay

Settings are read from a table of named texts.  A flag is set by the text `true`
and by no other; what is missing takes its default.
-/

namespace DhcpRelay

/-- The settings of the relay. -/
structure Settings where
  relayEnabled : Bool
  hopCountIncrement : Bool
  option82Enabled : Bool
  option82Validation : Bool
  option82Policy : Dhcp4.AgentPolicy
  identity : Dhcp4.IdentityKind
  v6RelayEnabled : Bool
  option79Enabled : Bool
  udpForwarderEnabled : Bool
  statisticsInterval : Nat
  deriving DecidableEq, Repr

namespace Settings

/-- What holds where nothing is configured. -/
def default : Settings where
  relayEnabled := true
  hopCountIncrement := true
  option82Enabled := false
  option82Validation := false
  option82Policy := .replace
  identity := .mac
  v6RelayEnabled := false
  option79Enabled := false
  udpForwarderEnabled := false
  statisticsInterval := 5

/-! ## Names -/

def relayDisabledKey : String := "dhcp_relay_disabled"

def hopCountDisabledKey : String := "v4relay_hop_count_increment_disabled"

def option82Key : String := "v4relay_option82_enabled"

def validationKey : String := "v4relay_option82_validation_enabled"

def policyKey : String := "v4relay_option82_policy"

def identityKey : String := "v4relay_option82_remote_id"

def v6RelayKey : String := "v6relay_enabled"

def option79Key : String := "v6relay_option79_enabled"

def udpForwarderKey : String := "udp_bcast_forwarder_enabled"

def intervalKey : String := "stats_update_interval"

/-! ## Reading -/

/-- The flag of a name is set. -/
def flag (options : Table String String) (key : String) : Bool :=
  options.get? key == some "true"

/-- Read the value of a name, or take its default if it is missing. -/
def value {Value : Type} (options : Table String String) (key : String) (default : Value)
    (read : String → Option Value) : Except ConfigFault Value :=
  match options.get? key with
  | none => .ok default
  | some written =>
      match read written with
      | some value => .ok value
      | none => .error (.invalidValue key written)

/-- Read an interval: a number of seconds from one up, of sixty-four bits. -/
def readInterval (written : String) : Option Nat :=
  (Decimal.readUpTo 18446744073709551615 written.toList).filter (0 < ·)

/-- Read the settings. -/
def ofOptions (options : Table String String) : Except ConfigFault Settings := do
  let option82Policy ← value options policyKey default.option82Policy Dhcp4.AgentPolicy.read
  let identity ← value options identityKey default.identity Dhcp4.IdentityKind.read
  let statisticsInterval ← value options intervalKey default.statisticsInterval readInterval
  return {
    relayEnabled := !flag options relayDisabledKey
    hopCountIncrement := !flag options hopCountDisabledKey
    option82Enabled := flag options option82Key
    option82Validation := flag options validationKey
    option82Policy := option82Policy
    identity := identity
    v6RelayEnabled := flag options v6RelayKey
    option79Enabled := flag options option79Key
    udpForwarderEnabled := flag options udpForwarderKey
    statisticsInterval := statisticsInterval }

/-- Write the settings. -/
def toJson (settings : Settings) : Json :=
  .ofMembers [("relay_enabled", .bool settings.relayEnabled),
    ("hop_count_increment", .bool settings.hopCountIncrement),
    ("option82_enabled", .bool settings.option82Enabled),
    ("option82_validate", .bool settings.option82Validation),
    ("option82_policy", .ofText settings.option82Policy.text),
    ("remote_id", .ofText settings.identity.text),
    ("v6_relay_enabled", .bool settings.v6RelayEnabled),
    ("option79_enabled", .bool settings.option79Enabled),
    ("udp_forwarder_enabled", .bool settings.udpForwarderEnabled),
    ("stats_interval_secs", .ofNat settings.statisticsInterval)]

/-! ## Changes -/

/-- A setting that changed, with the texts of its values. -/
structure Change where
  key : String
  old : String
  new : String
  deriving DecidableEq, Repr

/-- The change of one setting, if its values differ. -/
def change {Value : Type} [DecidableEq Value] (key : String) (text : Value → String)
    (old new : Value) : List Change :=
  if old = new then [] else [⟨key, text old, text new⟩]

/-- The text of a flag. -/
def flagText (flag : Bool) : String :=
  if flag then "true" else "false"

/-- The settings that differ, in the order they are reported. -/
def changes (old new : Settings) : List Change :=
  change relayDisabledKey flagText old.relayEnabled new.relayEnabled ++
    change hopCountDisabledKey flagText old.hopCountIncrement new.hopCountIncrement ++
    change option82Key flagText old.option82Enabled new.option82Enabled ++
    change validationKey flagText old.option82Validation new.option82Validation ++
    change v6RelayKey flagText old.v6RelayEnabled new.v6RelayEnabled ++
    change option79Key flagText old.option79Enabled new.option79Enabled ++
    change udpForwarderKey flagText old.udpForwarderEnabled new.udpForwarderEnabled ++
    change policyKey (Log.quote ·.text) old.option82Policy new.option82Policy ++
    change identityKey (Log.quote ·.text) old.identity new.identity ++
    change intervalKey Decimal.text old.statisticsInterval new.statisticsInterval

/-- The log line of a change. -/
def Change.notice (change : Change) : Notice where
  level := .info
  component := "mvirt_relay::config"
  message := "Relay setting changed"
  fields := [("key", Log.quote change.key), ("old", change.old), ("new", change.new)]

end Settings

end DhcpRelay
