import DhcpRelay.Servers.Roster
import DhcpRelay.SystemFault

/-!
# Faults of a configuration
-/

namespace DhcpRelay

/-- Why a configuration cannot be read or applied. -/
inductive ConfigFault where
  | io (fault : SystemFault)
  | json
  | invalidAddress (written : String)
  | unknownProtocol (written : String)
  | invalidValue (key value : String)
  | servers (fault : RosterFault)
  deriving DecidableEq, Repr

/-- The text of a fault. -/
def ConfigFault.message : ConfigFault → String
  | io fault => "IO error: " ++ fault.text
  | json => "JSON error: not a configuration document"
  | invalidAddress written => s!"Invalid address '{written}'"
  | unknownProtocol written => s!"Unknown UDP protocol '{written}'"
  | invalidValue key value => s!"Invalid value for {key}: '{value}'"
  | servers fault => "Registry error: " ++ fault.message

end DhcpRelay
