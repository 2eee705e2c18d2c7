import DhcpRelay.Proofs.Except
import DhcpRelay.Rollout.Plan

/-!
# Faults of a document

A document that cannot be planned is at fault itself: it is never for a join that was
refused.
-/

namespace DhcpRelay

/-- A group refused to be joined or left. -/
def ConfigFault.isRefusal : ConfigFault → Bool
  | .servers (.membership _ _) => true
  | _ => false

/-- The fault is not a refusal. -/
def ConfigFault.IsOwn (fault : ConfigFault) : Prop :=
  fault.isRefusal = false

section

open FailsWith

theorem Settings.failsWith_value {Value : Type} (options : Table String String) (key : String)
    (default : Value) (read : String → Option Value) :
    FailsWith ConfigFault.IsOwn (value options key default read) := by
  rw [value]
  split
  · exact ok _
  · split
    · exact ok _
    · exact error rfl

theorem Document.failsWith_settings (document : Document) :
    FailsWith ConfigFault.IsOwn document.settings := by
  refine (Settings.failsWith_value _ _ _ _).bind fun _ => ?_
  refine (Settings.failsWith_value _ _ _ _).bind fun _ => ?_
  exact (Settings.failsWith_value _ _ _ _).bind fun _ => ok _

theorem Row.failsWith_readIPv4 (written : String) :
    FailsWith ConfigFault.IsOwn (readIPv4 written) := by
  rw [readIPv4]
  split
  · exact ok _
  · exact error rfl

theorem Row.failsWith_readIPv6 (written : String) :
    FailsWith ConfigFault.IsOwn (readIPv6 written) := by
  rw [readIPv6]
  split
  · exact ok _
  · exact error rfl

theorem UdpPort.failsWith_read (written : String) : FailsWith ConfigFault.IsOwn (read written) := by
  rw [read]
  split
  · split
    · exact error rfl
    · exact ok _
  · split
    · exact ok _
    · exact error rfl

theorem Server4.failsWith_read (written : String) :
    FailsWith ConfigFault.IsOwn (Server4.read written) := by
  rw [Server4.read]
  split
  · exact error rfl
  · split
    · exact error rfl
    · exact (UdpPort.failsWith_read _).bind fun _ => ok _

theorem Row.failsWith_servers4 (row : Row) : FailsWith ConfigFault.IsOwn row.servers4 := by
  refine (mapM failsWith_readIPv4).bind fun _ => ?_
  exact (mapM Server4.failsWith_read).bind fun _ => ok _

theorem Row.failsWith_servers6 (row : Row) : FailsWith ConfigFault.IsOwn row.servers6 := by
  have unicast : ∀ written, FailsWith ConfigFault.IsOwn (readUnicast written) := by
    intro written
    refine (failsWith_readIPv6 written).bind fun address => ?_
    split
    · exact error rfl
    · exact ok _
  have multicast : ∀ group, FailsWith ConfigFault.IsOwn (readMulticast group) := by
    intro group
    refine (failsWith_readIPv6 group.address).bind fun address => ?_
    split
    · exact error rfl
    · split
      · exact error rfl
      · exact ok _
  exact (mapM unicast).bind fun _ => (mapM multicast).bind fun _ => ok _

namespace Plan

theorem failsWith_select (served : String) (names : List String) (rows : List Row) :
    FailsWith ConfigFault.IsOwn (select served names rows).rows := by
  induction rows generalizing names with
  | nil => exact ok []
  | cons row rest ih =>
      rw [select]
      split
      · exact ih names
      · split
        · exact error rfl
        · split
          · exact error rfl
          · exact (ih _).map _

theorem failsWith_ensureFits {Server : Type} [DecidableEq Server] {allowed : ConfigFault → Prop}
    {capacity : Nat} {interface : String} {servers : List Server}
    (large : capacity < servers.eraseDups.length →
      allowed (.servers (.capacityExceeded interface capacity))) :
    FailsWith allowed (ensureFits capacity interface servers) := by
  rw [ensureFits]
  split
  · exact error (large ‹_›)
  · exact ok ()

theorem failsWith_row (applied : Table String Row) (capacity4 capacity6 : Nat) (row : Row) :
    FailsWith ConfigFault.IsOwn (Plan.row applied capacity4 capacity6 row) := by
  rw [Plan.row]
  split
  · exact ok none
  · refine row.failsWith_servers4.bind fun _ => row.failsWith_servers6.bind fun _ => ?_
    refine FailsWith.bind (failsWith_ensureFits fun _ => rfl) fun _ => ?_
    exact FailsWith.bind (failsWith_ensureFits fun _ => rfl) fun _ => ok _

/-- No plan fails for a join that was refused. -/
theorem failsWith_plan (document : Document) (settings : Settings) (applied : Table String Row)
    (capacity4 capacity6 : Nat) :
    FailsWith ConfigFault.IsOwn
      ((select document.defaultVrf [] document.interfaces).rows.bind
        (ofRows settings applied capacity4 capacity6)) := by
  refine (failsWith_select _ _ _).bind fun rows => ?_
  exact (mapM (failsWith_row applied capacity4 capacity6)).bind fun _ => ok _

end Plan

end

end DhcpRelay
