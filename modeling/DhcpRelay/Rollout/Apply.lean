import DhcpRelay.Agent.Basic
import DhcpRelay.Rollout.Plan

/-!
# Applying documents

The relay remembers the rows it applied.  Applying a document withdraws the rows
it no longer has, brings each new or changed row in line and then takes over the
settings.  A join that is refused stops this: rows before it stay applied, the
settings are not taken over.

Every change of a roster is one step.  Packets that are handled meanwhile see
the states in `visible`, one after each step.
-/

namespace DhcpRelay

/-- The relay with the rows that were applied to it. -/
structure ManagedRelay where
  relay : Relay
  applied : Table String Row

/-- A relay that nothing was applied to. -/
def ManagedRelay.start (settings : Settings) (links : Topology) : ManagedRelay :=
  ⟨.start settings links, .empty⟩

/-- What applying a document changed. -/
structure RolloutReport where
  changes : List (String × RowStatus)
  skipped : List String
  togglesChanged : Nat
  deriving DecidableEq, Repr

namespace RolloutReport

/-- Nothing changed. -/
def isEmpty (report : RolloutReport) : Bool :=
  report.changes.isEmpty && report.togglesChanged == 0

/-- The change of an interface. -/
def statusOf (report : RolloutReport) (interface : String) : Option RowStatus :=
  (report.changes.find? (·.1 == interface)).map Prod.snd

end RolloutReport

/-- What happens while a document is applied. -/
inductive RolloutEvent where
  | skipped (interface vrf : String)
  | v4 (event : GroupEvent)
  | v6 (event : GroupEvent)
  | withdrawn (interface : String) (v4Removed v6Removed : Nat)
  | applied (interface : String) (change : RowStatus) (v4Added v4Removed v6Added v6Removed : Nat)
  | settingChanged (change : Settings.Change)
  deriving DecidableEq, Repr

/-- The log line of a group event. -/
def GroupEvent.notice? : GroupEvent → Option Notice
  | created interface =>
      some ⟨.info, "mvirt_relay::registry", "Relay interface created", [("iface", interface)]⟩
  | deleted interface =>
      some ⟨.info, "mvirt_relay::registry", "Relay interface deleted", [("iface", interface)]⟩
  | leaveRefused interface reason =>
      some ⟨.warn, "mvirt_relay::registry", "Failed to leave multicast group",
        [("iface", interface), ("error", reason)]⟩
  | _ => none

namespace RolloutEvent

/-- The change of group membership, if the event is one. -/
def group? : RolloutEvent → Option GroupEvent
  | .v4 event => some event
  | .v6 event => some event
  | _ => none

/-- The log line of an event. -/
def notice? : RolloutEvent → Option Notice
  | .skipped interface vrf =>
      some ⟨.warn, "mvirt_relay::sync", "Skipping interface outside the default VRF",
        [("iface", interface), ("vrf", Log.quote vrf)]⟩
  | .v4 event => event.notice?
  | .v6 event => event.notice?
  | .withdrawn interface v4Removed v6Removed =>
      some ⟨.info, "mvirt_relay::sync", "Relay configuration removed",
        [("iface", interface), ("v4", Decimal.text v4Removed), ("v6", Decimal.text v6Removed)]⟩
  | .applied interface change v4Added v4Removed v6Added v6Removed =>
      some ⟨.info, "mvirt_relay::sync", "Relay configuration applied",
        [("iface", interface), ("change", change.text), ("v4_added", Decimal.text v4Added),
          ("v4_removed", Decimal.text v4Removed), ("v6_added", Decimal.text v6Added),
          ("v6_removed", Decimal.text v6Removed)]⟩
  | .settingChanged change => some change.notice

end RolloutEvent

/-- The course of applying a document, or of a part of it. -/
structure Rollout (Result : Type) where
  result : Result
  after : ManagedRelay
  events : List RolloutEvent
  visible : List Relay

namespace ManagedRelay

/-- The state with another roster of DHCPv4 servers. -/
def withServers4 (state : ManagedRelay) (servers : Roster Server4) : ManagedRelay :=
  { state with relay := { state.relay with servers4 := servers } }

/-- The state with another roster of DHCPv6 servers. -/
def withServers6 (state : ManagedRelay) (servers : Roster Server6) : ManagedRelay :=
  { state with relay := { state.relay with servers6 := servers } }

/-- Take all servers from an interface and forget its row. -/
def withdraw (state : ManagedRelay) (access : GroupAccess) (interface : String) : Rollout Unit :=
  let v4 := state.relay.servers4.clear access interface
  let first := state.withServers4 v4.roster
  let v6 := first.relay.servers6.clear access interface
  let second := first.withServers6 v6.roster
  { result := ()
    after := { second with applied := second.applied.erase interface }
    events := v4.events.map .v4 ++ v6.events.map .v6 ++
      [.withdrawn interface v4.result.length v6.result.length]
    visible := [first.relay, second.relay] }

/-- Withdraw interfaces one after the other. -/
def withdrawAll (state : ManagedRelay) (access : GroupAccess) : List String → Rollout Unit
  | [] => ⟨(), state, [], []⟩
  | interface :: rest =>
      let first := state.withdraw access interface
      let later := first.after.withdrawAll access rest
      ⟨(), later.after, first.events ++ later.events, first.visible ++ later.visible⟩

/-- Bring an interface in line with its row and remember the row. -/
def applyRow (state : ManagedRelay) (access : GroupAccess) (planned : PlannedRow) :
    Rollout (Except ConfigFault Unit) :=
  let interface := planned.row.name
  let v4 := state.relay.servers4.assign access interface planned.v4
  let first := state.withServers4 v4.roster
  match v4.result with
  | .error fault => ⟨.error (.servers fault), first, v4.events.map .v4, [first.relay]⟩
  | .ok v4Difference =>
      let v6 := first.relay.servers6.assign access interface planned.v6
      let second := first.withServers6 v6.roster
      let events := v4.events.map .v4 ++ v6.events.map .v6
      let visible := [first.relay, second.relay]
      match v6.result with
      | .error fault => ⟨.error (.servers fault), second, events, visible⟩
      | .ok v6Difference =>
          { result := .ok ()
            after := { second with applied := second.applied.put interface planned.row }
            events := events ++ [.applied interface planned.change
              v4Difference.added.length v4Difference.removed.length
              v6Difference.added.length v6Difference.removed.length]
            visible := visible }

/-- Apply rows one after the other, up to the first that fails. -/
def applyRows (state : ManagedRelay) (access : GroupAccess) :
    List PlannedRow → Rollout (Except ConfigFault Unit)
  | [] => ⟨.ok (), state, [], []⟩
  | planned :: rest =>
      let first := state.applyRow access planned
      match first.result with
      | .error fault => ⟨.error fault, first.after, first.events, first.visible⟩
      | .ok () =>
          let later := first.after.applyRows access rest
          ⟨later.result, later.after, first.events ++ later.events,
            first.visible ++ later.visible⟩

/-- Take over settings. -/
def takeOver (state : ManagedRelay) (settings : Settings) : ManagedRelay :=
  { state with relay := { state.relay with settings := settings } }

/-- Carry out a plan. -/
def carryOut (state : ManagedRelay) (access : GroupAccess) (plan : Plan) (skipped : List String) :
    Rollout (Except ConfigFault RolloutReport) :=
  let withdrawal := state.withdrawAll access plan.withdrawn
  let rows := withdrawal.after.applyRows access plan.rows
  let events := withdrawal.events ++ rows.events
  let visible := withdrawal.visible ++ rows.visible
  match rows.result with
  | .error fault => ⟨.error fault, rows.after, events, visible⟩
  | .ok () =>
      let changes := state.relay.settings.changes plan.settings
      let last := rows.after.takeOver plan.settings
      { result := .ok {
          changes := plan.withdrawn.map (·, .deleted) ++
            plan.rows.map fun planned => (planned.row.name, planned.change)
          skipped := skipped
          togglesChanged := changes.length }
        after := last
        events := events ++ changes.map .settingChanged
        visible := visible ++ [last.relay] }

/-- Apply a document. -/
def apply (state : ManagedRelay) (access : GroupAccess) (document : Document) :
    Rollout (Except ConfigFault RolloutReport) :=
  match document.settings with
  | .error fault => ⟨.error fault, state, [], []⟩
  | .ok settings =>
      let selection := Plan.select document.defaultVrf [] document.interfaces
      let skips := selection.skipped.map fun row => .skipped row.name (row.vrf.getD "")
      let plan := selection.rows.bind
        (Plan.ofRows settings state.applied state.relay.servers4.capacity
          state.relay.servers6.capacity)
      match plan with
      | .error fault => ⟨.error fault, state, skips, []⟩
      | .ok plan =>
          let run := state.carryOut access plan (selection.skipped.map (·.name))
          { run with events := skips ++ run.events }

end ManagedRelay

end DhcpRelay
