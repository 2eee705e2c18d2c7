import DhcpRelay.Proofs.Rollout.PlanFaults
import DhcpRelay.Proofs.Rollout.Recovery
import DhcpRelay.Proofs.Rollout.Steps
import DhcpRelay.Proofs.Servers.History

/-!
# Documents that fail

A document that fails for its own sake changes nothing.  One that fails for a join that was
refused stops at the row of the interface: the rows in front of it hold, and what comes
behind is as it was.

This does not need the relay to be in line with anything.  It is enough that lists and
records agree, and so they do whatever is done to the rosters meanwhile.
-/

namespace DhcpRelay

open Roster

/-! ## Rows in the order of their names -/

/-- The rows in front of a planned row are the changed ones that sort before it. -/
theorem Plan.mem_front_iff {settings : Settings} {applied : Table String Row} {rows : List Row}
    (distinct : (rows.map Row.name).Nodup) {front back : List PlannedRow} {planned : PlannedRow}
    (parts : (changing settings applied rows).rows = front ++ planned :: back) (other : Row) :
    (other ∈ rows ∧ applied.get? other.name ≠ some other) ∧ other.name < planned.row.name ↔
      ∃ earlier ∈ front, earlier.row = other := by
  have sorted : (changing settings applied rows).rows.Pairwise _ :=
    pairwise_names_changing distinct
  rw [parts, List.pairwise_append, List.pairwise_cons] at sorted
  rcases sorted with ⟨_, ⟨behind, _⟩, across⟩
  constructor
  · intro brought
    rcases brought with ⟨⟨among, changed⟩, first⟩
    have isPlanned : ∃ planned ∈ (changing settings applied rows).rows, planned.row = other :=
      exists_planned_of_changed among changed
    rcases isPlanned with ⟨found, member, rfl⟩
    rw [parts, List.mem_append, List.mem_cons] at member
    rcases member with inFront | rfl | inBack
    · exact ⟨found, inFront, rfl⟩
    · exact absurd first (lt_irrefl _)
    · exact absurd first (lt_asymm (behind found inBack))
  · intro earlier
    rcases earlier with ⟨found, inFront, rfl⟩
    have member : found ∈ (changing settings applied rows).rows :=
      parts ▸ List.mem_append_left _ inFront
    exact ⟨changed_of_mem_changing member, across found inFront planned List.mem_cons_self⟩

namespace ManagedRelay

variable {capacity4 capacity6 : Nat} {state after : ManagedRelay} {access : GroupAccess}
  {document : Document} {fault : ConfigFault} {interface : String}

/-! ## Reachable states -/

/-- What may happen to the relay: documents are applied, others change the rosters, packets
are counted. -/
inductive Step : ManagedRelay → ManagedRelay → Prop where
  | apply (state : ManagedRelay) (access : GroupAccess) (document : Document) :
      Step state (state.apply access document).after
  | operate4 (state : ManagedRelay) (access : GroupAccess) (operation : Operation Server4) :
      Step state (state.withServers4 (state.relay.servers4.perform access operation))
  | operate6 (state : ManagedRelay) (access : GroupAccess) (operation : Operation Server6) :
      Step state (state.withServers6 (state.relay.servers6.perform access operation))
  | elsewhere (state : ManagedRelay) (settings : Settings) (links : Topology)
      (statistics : Statistics) :
      Step state { state with
        relay := { state.relay with
          settings := settings
          links := links
          statistics := statistics } }

/-- The state comes from a relay that nothing was applied to. -/
def Reachable (state : ManagedRelay) : Prop :=
  ∃ relay capacity4 capacity6 multicast4 multicast6,
    Relation.ReflTransGen Step (fresh relay capacity4 capacity6 multicast4 multicast6) state

theorem IsSound.carryOut (sound : state.IsSound capacity4 capacity6) (access : GroupAccess)
    (plan : Plan) (skipped : List String) :
    (state.carryOut access plan skipped).after.IsSound capacity4 capacity6 := by
  have left := (sound.withdrawAll access plan.withdrawn).applyRows access plan.rows
  rw [ManagedRelay.carryOut]
  dsimp only
  split
  · exact left
  · exact ⟨left.sound4, left.sound6, left.limit4, left.limit6⟩

theorem IsSound.apply (sound : state.IsSound capacity4 capacity6) (access : GroupAccess)
    (document : Document) : (state.apply access document).after.IsSound capacity4 capacity6 := by
  rw [ManagedRelay.apply]
  split
  · exact sound
  · dsimp only
    split
    · exact sound
    · exact sound.carryOut access ..

theorem IsSound.step (sound : state.IsSound capacity4 capacity6) (step : Step state after) :
    after.IsSound capacity4 capacity6 := by
  cases step with
  | apply access document => exact sound.apply access document
  | operate4 access operation =>
      exact ⟨sound.sound4.perform access operation, sound.sound6,
        (capacity_perform ..).trans sound.limit4, sound.limit6⟩
  | operate6 access operation =>
      exact ⟨sound.sound4, sound.sound6.perform access operation, sound.limit4,
        (capacity_perform ..).trans sound.limit6⟩
  | elsewhere => exact ⟨sound.sound4, sound.sound6, sound.limit4, sound.limit6⟩

/-- Lists and records agree in every state that can be reached. -/
theorem Reachable.isSound (reachable : state.Reachable) :
    state.IsSound state.relay.servers4.capacity state.relay.servers6.capacity := by
  rcases reachable with ⟨relay, capacity4, capacity6, multicast4, multicast6, steps⟩
  have sound : state.IsSound capacity4 capacity6 := by
    induction steps with
    | refl => exact ⟨sound_empty capacity4 multicast4, sound_empty capacity6 multicast6, rfl, rfl⟩
    | tail _ step ih => exact ih.step step
  exact ⟨sound.sound4, sound.sound6, rfl, rfl⟩

theorem Reachable.afterAll (reachable : state.Reachable) (calls : List (GroupAccess × Document)) :
    (state.afterAll calls).Reachable := by
  induction calls generalizing state with
  | nil => exact reachable
  | cons call rest ih =>
      rcases reachable with ⟨relay, capacity4, capacity6, multicast4, multicast6, steps⟩
      exact ih ⟨relay, capacity4, capacity6, multicast4, multicast6,
        steps.tail (.apply state call.1 call.2)⟩

theorem reachable_fresh (relay : Relay) (capacity4 capacity6 : Nat)
    (multicast4 multicast6 : Bool) :
    (fresh relay capacity4 capacity6 multicast4 multicast6).Reachable :=
  ⟨relay, capacity4, capacity6, multicast4, multicast6, .refl⟩

/-! ## Where a rollout stops -/

/-- Rows that fail do so at one of them, behind others that were applied. -/
theorem exists_of_applyRows_eq_error {rows : List PlannedRow}
    (failed : (state.applyRows access rows).result = .error fault) :
    ∃ front planned back, rows = front ++ planned :: back ∧
      (state.applyRows access front).result = .ok () ∧
      let last := (state.applyRows access front).after.applyRow access planned
      last.result = .error fault ∧ last.events ⊆ (state.applyRows access rows).events ∧
        (state.applyRows access rows).after = last.after := by
  induction rows generalizing state with
  | nil => cases failed
  | cons planned rest ih =>
      cases result : (state.applyRow access planned).result with
      | error other =>
          rw [applyRows_cons_of_error result, result] at failed
          refine ⟨[], planned, rest, rfl, rfl, result.trans failed, ?_, ?_⟩
          · exact subset_events_applyRows_cons state access planned rest
          · rw [applyRows_cons_of_error result]
            rfl
      | ok =>
          rw [applyRows_cons_of_ok result] at failed ⊢
          rcases ih failed with ⟨front, stopping, back, rfl, done, stopped, events, same⟩
          have longer : state.applyRows access (planned :: front) = _ :=
            applyRows_cons_of_ok result
          refine ⟨planned :: front, stopping, back, rfl, ?_, ?_, ?_, ?_⟩
          · rw [longer]
            exact done
          · rw [longer]
            exact stopped
          · rw [longer]
            exact List.Subset.trans events (List.subset_append_right _ _)
          · rw [longer]
            exact same

/-! ## Why a document fails -/

/-- The call had no effect, and it did not fail for a refusal. -/
def IsRejection (state : ManagedRelay) (fault : ConfigFault)
    (run : Rollout (Except ConfigFault RolloutReport)) : Prop :=
  fault.IsOwn ∧ run.after = state ∧ run.visible = [] ∧
    ∀ event ∈ run.events, event.group? = none

/-- A document is rejected, or it was planned and one of its rows failed. -/
theorem isRejection_or_planned (failed : (state.apply access document).result = .error fault) :
    state.IsRejection fault (state.apply access document) ∨
      ∃ settings,
        document.IsPlannable state.relay.servers4.capacity state.relay.servers6.capacity
          state.applied ∧
        let plan := Plan.changing settings state.applied document.servedRows
        let rows := (state.withdrawAll access plan.withdrawn).after.applyRows access plan.rows
        rows.result = .error fault ∧ rows.events ⊆ (state.apply access document).events ∧
          (state.apply access document).after = rows.after := by
  cases read : document.settings with
  | error own =>
      left
      rw [ManagedRelay.apply, read] at failed ⊢
      cases failed
      exact ⟨document.failsWith_settings _ read, rfl, rfl, by simp⟩
  | ok settings =>
      cases planned : (Plan.select document.defaultVrf [] document.interfaces).rows.bind
          (Plan.ofRows settings state.applied state.relay.servers4.capacity
            state.relay.servers6.capacity) with
      | error own =>
          left
          rw [apply_of_plan_eq_error access read planned] at failed ⊢
          cases failed
          refine ⟨Plan.failsWith_plan _ _ _ _ _ _ planned, rfl, rfl, fun event member => ?_⟩
          rcases List.mem_map.1 member with ⟨row, _, rfl⟩
          rfl
      | ok plan =>
          right
          rcases Document.plan_eq_ok_iff.1 planned with ⟨plannable, rfl⟩
          let plan := Plan.changing settings state.applied document.servedRows
          let skipped :=
            (Plan.select document.defaultVrf [] document.interfaces).skipped.map (·.name)
          rcases apply_of_isPlannable access read plannable with ⟨result, after, events⟩
          have inner := subset_events_carryOut state access plan skipped
          rw [result] at failed
          refine ⟨settings, plannable, ?_⟩
          cases rows : ((state.withdrawAll access plan.withdrawn).after.applyRows access
              plan.rows).result with
          | error stopping =>
              rcases carryOut_of_error skipped rows with ⟨stopped, same⟩
              cases stopped.symm.trans failed
              exact ⟨rows, List.Subset.trans inner events, after.trans same⟩
          | ok => cases failed.symm.trans (carryOut_of_ok skipped rows).1

/-! ## Stopping at a row -/

/-- A document withdraws an interface: it has no row for it, where one was applied. -/
def Withdraws (state : ManagedRelay) (document : Document) (interface : String) : Prop :=
  (state.applied.get? interface).isSome ∧ ∀ row ∈ document.servedRows, row.name ≠ interface

/-- A document brings a row that is not the one applied before. -/
def Brings (state : ManagedRelay) (document : Document) (row : Row) : Prop :=
  row ∈ document.servedRows ∧ state.applied.get? row.name ≠ some row

/-- Where applying a document stops at a row, what sorts before the row was carried out and
nothing behind it was.  Of the interface of the row itself the DHCPv6 servers and the
remembered row are as before. -/
structure StopsAt (state : ManagedRelay) (document : Document) (row : Row)
    (after : ManagedRelay) : Prop where
  brought : state.Brings document row
  settings : after.relay.settings = state.relay.settings
  withdrawn : ∀ {interface}, state.Withdraws document interface → after.IsBare interface
  front : ∀ {other}, state.Brings document other → other.name < row.name → after.Holds other
  elsewhere : ∀ {interface}, interface ≠ row.name → ¬ state.Withdraws document interface →
    (¬ ∃ other, state.Brings document other ∧ other.name = interface ∧ interface < row.name) →
    SameAt interface state after
  servers6 : after.relay.servers6.list? row.name = state.relay.servers6.list? row.name
  remembered : after.applied.get? row.name = state.applied.get? row.name

/-- What a refused join leaves of the DHCPv4 servers of its interface.  If it was the other
group that refused, these are as before only if the row wants the servers listed before. -/
def LeavesServers4 (state : ManagedRelay) (row : Row) (reason : String)
    (events : List RolloutEvent) (after : ManagedRelay) : Prop :=
  .v4 (.joinRefused row.name reason) ∈ events ∧ SameAt row.name state after ∨
    .v6 (.joinRefused row.name reason) ∈ events ∧
      after.relay.servers4.serversOf row.name =
        aligned (state.relay.servers4.serversOf row.name) row.wanted4 ∧
      (SameAt row.name state after ↔
        ∀ server, server ∈ state.relay.servers4.serversOf row.name ↔ server ∈ row.wanted4)

theorem IsSound.applyRow_of_error (sound : state.IsSound capacity4 capacity6)
    {planned : PlannedRow} (isPlanned : IsPlanned capacity4 capacity6 planned)
    (failed : (state.applyRow access planned).result = .error fault) :
    let run := state.applyRow access planned
    ∃ reason, fault = .servers (.membership planned.row.name reason) ∧
      run.after.relay.servers6 = state.relay.servers6 ∧
      run.after.applied = state.applied ∧
      state.LeavesServers4 planned.row reason run.events run.after := by
  intro run
  have left := sound.applyRow access planned
  rcases sound.applyRow_cases isPlanned access with
    ⟨done, _⟩ | ⟨reason, refused, ⟨same, event⟩ | ⟨half, list, event⟩⟩
  · cases done.symm.trans failed
  · cases failed.symm.trans refused
    have whole : run.after = state := same
    rw [whole]
    exact ⟨reason, rfl, rfl, rfl, .inl ⟨event, .refl ..⟩⟩
  · cases failed.symm.trans refused
    have nodup := sound.sound4.nodup_serversOf planned.row.name
    have torn : run.after = state.withServers4 _ := half
    rw [half] at left
    rw [torn]
    refine ⟨reason, rfl, rfl, rfl, .inr ⟨event, list, ?_⟩⟩
    rw [← aligned_eq_self_iff nodup, ← list]
    constructor
    · exact SameAt.serversOf4
    · intro same
      refine ⟨?_, rfl, rfl⟩
      rw [left.sound4.list?_eq, sound.sound4.list?_eq]
      rw [show (state.withServers4 _).relay.servers4.serversOf planned.row.name = _ from same]

theorem LeavesServers4.of_sameAt {row : Row} {reason : String} {fewer events : List RolloutEvent}
    {between : ManagedRelay} (leaves : between.LeavesServers4 row reason fewer after)
    (same : SameAt row.name state between) (subset : fewer ⊆ events) :
    state.LeavesServers4 row reason events after := by
  rcases leaves with ⟨event, kept⟩ | ⟨event, list, kept⟩
  · exact .inl ⟨subset event, same.trans kept⟩
  · rw [same.serversOf4] at list kept
    refine .inr ⟨subset event, list, ?_⟩
    rw [← kept]
    exact ⟨same.symm.trans, same.trans⟩

/-- A part of a document was carried out: what it withdraws is gone, and these rows hold. -/
structure HasFront (state : ManagedRelay) (document : Document) (front : List PlannedRow)
    (halfway : ManagedRelay) : Prop where
  settings : halfway.relay.settings = state.relay.settings
  withdrawn : ∀ {interface}, state.Withdraws document interface → halfway.IsBare interface
  holds : ∀ planned ∈ front, halfway.Holds planned.row
  elsewhere : ∀ {interface}, ¬ state.Withdraws document interface →
    interface ∉ front.map (·.row.name) → SameAt interface state halfway

theorem IsSound.hasFront (sound : state.IsSound capacity4 capacity6) {settings : Settings}
    {front : List PlannedRow}
    (isPlanned : ∀ planned ∈ front, IsPlanned capacity4 capacity6 planned)
    (distinct : (front.map (·.row.name)).Nodup)
    (brings : ∀ planned ∈ front, state.Brings document planned.row) :
    let plan := Plan.changing settings state.applied document.servedRows
    let rows := (state.withdrawAll access plan.withdrawn).after.applyRows access front
    rows.result = .ok () → state.HasFront document front rows.after := by
  intro plan rows done
  have withdrawn := sound.withdrawAll access plan.withdrawn
  constructor
  case settings =>
    rw [settings_applyRows, settings_withdrawAll]
  case withdrawn =>
    intro interface gone
    have fresh : interface ∉ front.map (·.row.name) := by
      intro again
      rcases List.mem_map.1 again with ⟨other, inFront, named⟩
      exact gone.2 other.row (brings other inFront).1 named
    exact (sound.isBare_withdrawAll access (Plan.mem_missing_iff.2 gone)).of_sameAt
      (sameAt_applyRows _ access fresh)
  case holds => exact withdrawn.holds_applyRows isPlanned distinct done
  case elsewhere =>
    intro interface remains fresh
    exact (sameAt_withdrawAll state access (mt Plan.mem_missing_iff.1 remains)).trans
      (sameAt_applyRows _ access fresh)

/-- Stopping at the next row of a document, of which the rows in front were carried out. -/
theorem HasFront.stopsAt {front : List PlannedRow} {planned : PlannedRow}
    (hasFront : state.HasFront document front after)
    (brought : state.Brings document planned.row)
    (before : ∀ other, state.Brings document other ∧ other.name < planned.row.name ↔
      ∃ earlier ∈ front, earlier.row = other)
    (servers6 : (after.applyRow access planned).after.relay.servers6 = after.relay.servers6)
    (remembered : (after.applyRow access planned).after.applied = after.applied) :
    SameAt planned.row.name state after ∧
      state.StopsAt document planned.row (after.applyRow access planned).after := by
  have here : SameAt planned.row.name state after := by
    refine hasFront.elsewhere (fun gone => gone.2 planned.row brought.1 rfl) fun again => ?_
    rcases List.mem_map.1 again with ⟨other, inFront, named⟩
    exact absurd named (ne_of_lt ((before other.row).2 ⟨other, inFront, rfl⟩).2)
  refine ⟨here, ?_⟩
  constructor
  case brought => exact brought
  case settings => exact (applyRow_parts after access planned).1.trans hasFront.settings
  case withdrawn =>
    intro interface gone
    have different := Ne.symm (gone.2 planned.row brought.1)
    exact (hasFront.withdrawn gone).of_sameAt (sameAt_applyRow after access different)
  case front =>
    intro other brings first
    rcases (before other).1 ⟨brings, first⟩ with ⟨earlier, inFront, rfl⟩
    exact (hasFront.holds earlier inFront).of_sameAt
      (sameAt_applyRow after access (ne_of_lt first))
  case elsewhere =>
    intro interface different remains none
    have fresh : interface ∉ front.map (·.row.name) := by
      intro again
      rcases List.mem_map.1 again with ⟨earlier, inFront, rfl⟩
      rcases (before earlier.row).2 ⟨earlier, inFront, rfl⟩ with ⟨brings, first⟩
      exact none ⟨earlier.row, brings, rfl, first⟩
    exact (hasFront.elsewhere remains fresh).trans (sameAt_applyRow after access different)
  case servers6 =>
    rw [servers6]
    exact here.servers6
  case remembered =>
    rw [remembered]
    exact here.applied

/-- Rows of a plan that fail stop at one of them, for a join that was refused. -/
theorem IsSound.stopsAt (sound : state.IsSound capacity4 capacity6) {settings : Settings}
    (plannable : document.IsPlannable capacity4 capacity6 state.applied) :
    let plan := Plan.changing settings state.applied document.servedRows
    let rows := (state.withdrawAll access plan.withdrawn).after.applyRows access plan.rows
    rows.result = .error fault →
      ∃ row reason, fault = .servers (.membership row.name reason) ∧
        state.StopsAt document row rows.after ∧
        state.LeavesServers4 row reason rows.events rows.after := by
  intro plan rows failed
  rcases exists_of_applyRows_eq_error failed with
    ⟨front, planned, back, parts, done, stopped, events, same⟩
  have withdrawn := sound.withdrawAll access plan.withdrawn
  have isPlanned : ∀ other ∈ front ++ planned :: back, IsPlanned capacity4 capacity6 other :=
    parts ▸ plannable.isPlanned
  have brings : ∀ other ∈ front ++ planned :: back, state.Brings document other.row :=
    parts ▸ fun _ member => Plan.changed_of_mem_changing member
  have distinct : ((front ++ planned :: back).map (·.row.name)).Nodup :=
    parts ▸ Plan.nodup_names_changing plannable.distinct
  rw [List.forall_mem_append, List.forall_mem_cons] at isPlanned brings
  rw [List.map_append, List.nodup_append] at distinct
  rcases (withdrawn.applyRows access front).applyRow_of_error isPlanned.2.1 stopped with
    ⟨reason, refused, servers6, remembered, leaves⟩
  rcases (sound.hasFront isPlanned.1 distinct.1 brings.1 done).stopsAt brings.2.1
    (Plan.mem_front_iff plannable.distinct parts) servers6 remembered with ⟨here, stops⟩
  rw [← same] at leaves stops
  exact ⟨planned.row, reason, refused, stops, leaves.of_sameAt here events⟩

/-! ## Documents that fail -/

/-- A document that fails in any state that can be reached is rejected without effect, or
a group refused an interface.  So nothing else can fail once anything has changed. -/
theorem isRejection_or_refused_of_apply_eq_error (reachable : state.Reachable)
    (failed : (state.apply access document).result = .error fault) :
    let run := state.apply access document
    state.IsRejection fault run ∨
      ∃ interface reason, fault = .servers (.membership interface reason) ∧
        ∃ event ∈ run.events, event.group? = some (.joinRefused interface reason) := by
  intro run
  rcases isRejection_or_planned failed with rejected | ⟨settings, plannable, stopped, events, _⟩
  · exact .inl rejected
  · right
    rcases reachable.isSound.stopsAt plannable stopped with
      ⟨row, reason, same, _, ⟨event, _⟩ | ⟨event, _⟩⟩
    · exact ⟨row.name, reason, same, _, events event, rfl⟩
    · exact ⟨row.name, reason, same, _, events event, rfl⟩

/-- A document with a setting, and with more servers than there is room for. -/
def crowdedDocument : Document where
  defaultVrf := Document.standardVrf
  options := Table.empty.put Settings.option79Key "true"
  interfaces := [{ pairRow "eth1" "10.0.0.6" "fd00::6" with ipv6Unicast := ["fd00::6", "fd00::7"] }]

theorem isRejection_or_refused_crowdedDocument :
    let before := (fresh (.start .default ⟨[], .zero⟩) 1 1 false true).afterAll tornHistory
    let run := before.apply grantingJoins crowdedDocument
    before.Reachable ∧ run.result = .error (.servers (.capacityExceeded "eth1" 1)) ∧
      run.after = before ∧ run.visible = [] ∧ ∀ event ∈ run.events, event.group? = none := by
  intro before run
  have reachable : before.Reachable := (reachable_fresh ..).afterAll tornHistory
  have failed : run.result = .error (.servers (.capacityExceeded "eth1" 1)) := by decide +kernel
  rcases isRejection_or_refused_of_apply_eq_error reachable failed with
    ⟨_, same, unseen, silent⟩ | ⟨interface, reason, other, _⟩
  · exact ⟨reachable, failed, same, unseen, silent⟩
  · cases other

/-- A document that fails for a refused join, in any state that can be reached, stops at the
row of the interface. -/
theorem stopsAt_of_apply_eq_membership (reachable : state.Reachable) {reason : String}
    (failed : (state.apply access document).result =
      .error (.servers (.membership interface reason))) :
    let run := state.apply access document
    ∃ row, row.name = interface ∧ state.StopsAt document row run.after ∧
      state.LeavesServers4 row reason run.events run.after := by
  intro run
  rcases isRejection_or_planned failed with ⟨own, _⟩ | ⟨settings, plannable, stopped, events, same⟩
  · cases own
  · rcases reachable.isSound.stopsAt plannable stopped with ⟨row, _, refused, stops, leaves⟩
    cases refused
    rw [← same] at stops leaves
    exact ⟨row, rfl, stops, leaves.of_sameAt (.refl ..) events⟩

/-- A history of one document with one interface. -/
def oneRow : List (GroupAccess × Document) :=
  [(grantingJoins, plainDocument [pairRow "eth9" "10.0.0.9" "fd00::9"])]

/-- What follows it: of the three rows the one in the middle has to join the group. -/
def threeRows : Document :=
  plainDocument [⟨"eth0", none, ["10.0.0.8"], [], [], []⟩, pairRow "eth1" "10.0.0.6" "fd00::6",
    ⟨"eth2", none, ["10.0.0.7"], [], [], []⟩]

theorem stopsAt_threeRows :
    let before := (fresh (.start .default ⟨[], .zero⟩) 16 8 false true).afterAll oneRow
    let run := before.apply refusingJoins threeRows
    let reason := "no such device"
    before.Reachable ∧ run.result = .error (.servers (.membership "eth1" reason)) ∧
      run.after.Holds ⟨"eth0", none, ["10.0.0.8"], [], [], []⟩ ∧
      run.after.IsBare "eth9" ∧
      SameAt "eth2" before run.after ∧
      ∃ row, row.name = "eth1" ∧ before.LeavesServers4 row reason run.events run.after := by
  intro before run reason
  have reachable : before.Reachable := (reachable_fresh ..).afterAll oneRow
  have failed : run.result = .error (.servers (.membership "eth1" reason)) := by
    -- The rows are sorted by recursion on the length, which the kernel does not compute.
    have sorted : Plan.sortRows threeRows.interfaces = threeRows.interfaces :=
      List.mergeSort_of_pairwise (by decide +kernel)
    have selected : Plan.select threeRows.defaultVrf [] threeRows.interfaces =
        ⟨[], .ok threeRows.interfaces⟩ := rfl
    have read : threeRows.settings = .ok .default := rfl
    simp only [run, ManagedRelay.apply, read, selected, Except.bind, Plan.ofRows, sorted]
    decide +kernel
  rcases stopsAt_of_apply_eq_membership reachable failed with ⟨row, named, stops, leaves⟩
  refine ⟨reachable, failed, stops.front ⟨?_, ?_⟩ ?_, stops.withdrawn ⟨?_, ?_⟩,
    stops.elsewhere ?_ ?_ ?_, row, named, leaves⟩
  · decide +kernel
  · decide +kernel
  · rw [named]
    decide +kernel
  · decide +kernel
  · decide +kernel
  · rw [named]
    decide +kernel
  · intro withdrawn
    exact absurd withdrawn.1 (by decide +kernel)
  · intro earlier
    rcases earlier with ⟨_, _, _, first⟩
    rw [named] at first
    exact absurd first (by decide +kernel)

/-- A refused DHCPv6 join finds the DHCPv4 servers of its interface changed. -/
theorem not_sameAt_pairDocument :
    let before := (fresh (.start .default ⟨[], .zero⟩) 16 8 false true).afterAll
      [(grantingJoins, helperDocument)]
    let run := before.apply refusingJoins pairDocument
    before.Reachable ∧ run.result = .error (.servers (.membership "eth1" "no such device")) ∧
      before.relay.servers4.list? "eth1" = some [.dhcp ⟨10, 0, 0, 5⟩] ∧
      run.after.relay.servers4.list? "eth1" = some [.dhcp ⟨10, 0, 0, 6⟩] := by
  intro before run
  refine ⟨(reachable_fresh ..).afterAll _, ?_, ?_, ?_⟩
  · decide +kernel
  · decide +kernel
  · decide +kernel

end ManagedRelay

end DhcpRelay
