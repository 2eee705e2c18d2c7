import DhcpRelay.Proofs.Rollout.Steps

/-!
# Recovery from refused joins

A refused join may stop a row between its two rosters.  The DHCPv4 servers are those
of the new row by then, while the row before it stays the applied one: the interface
is torn.  The DHCPv6 servers, which come last, never get out of line.

An interface is no longer torn once a document changed or withdrew its applied row.
A document with this very row leaves the interface as it is.
-/

namespace DhcpRelay

open Roster

/-- The row that a document has for an interface. -/
def Document.row? (document : Document) (interface : String) : Option Row :=
  document.servedRows.find? (·.name == interface)

/-- The DHCPv6 group refused an interface. -/
def Refused6 (events : List RolloutEvent) (interface : String) : Prop :=
  ∃ reason, .v6 (.joinRefused interface reason) ∈ events

theorem Refused6.mono {fewer events : List RolloutEvent} {interface : String}
    (refused : Refused6 fewer interface) (subset : fewer ⊆ events) :
    Refused6 events interface := by
  cases refused with
  | intro reason member => exact ⟨reason, subset member⟩

/-- A roster whose list of one interface became that of a new row follows the rows with it. -/
theorem Follows.of_listed {Server : Type} [DecidableEq Server] {before after : Roster Server}
    {wanted : Row → List Server} {applied : Table String Row} {row : Row}
    (follows : Follows before wanted applied) (sound : after.Sound)
    (elsewhere : SameElsewhere row.name before after)
    (listed : ∀ server, server ∈ after.serversOf row.name ↔ server ∈ wanted row) :
    Follows after wanted (applied.put row.name row) := by
  refine ⟨sound, fun interface server => ?_⟩
  rw [Table.get?_put]
  by_cases same : interface = row.name
  · rw [same, if_pos rfl, listed]
    simp
  · rw [if_neg same, elsewhere.serversOf same]
    exact follows.lists interface server

namespace ManagedRelay

variable {capacity4 capacity6 : Nat} {state : ManagedRelay} {access : GroupAccess}
  {document : Document} {settings : Settings} {interface : String}

/-! ## Torn interfaces -/

/-- The DHCPv4 servers of an interface are not those of its applied row. -/
def IsTorn (state : ManagedRelay) (interface : String) : Prop :=
  ¬ ∀ server, server ∈ state.relay.servers4.serversOf interface ↔
    ∃ row, state.applied.get? interface = some row ∧ server ∈ row.wanted4

theorem isTorn_congr {before after : ManagedRelay} (same : SameAt interface before after) :
    after.IsTorn interface ↔ before.IsTorn interface := by
  rw [IsTorn, IsTorn, same.serversOf4, same.applied]

theorem Holds.not_isTorn {row : Row} (holds : state.Holds row) : ¬ state.IsTorn row.name := by
  simp [IsTorn, holds.servers4, holds.remembered]

theorem IsBare.not_isTorn (bare : state.IsBare interface) : ¬ state.IsTorn interface := by
  simp [IsTorn, serversOf_of_list?_none bare.servers4, bare.forgotten]

/-- What holds whichever joins are refused: all but the lists of DHCPv4 servers follows
the applied rows. -/
structure Tracks (capacity4 capacity6 : Nat) (state : ManagedRelay) : Prop where
  sound4 : state.relay.servers4.Sound
  follows6 : Follows state.relay.servers6 Row.wanted6 state.applied
  limit4 : state.relay.servers4.capacity = capacity4
  limit6 : state.relay.servers6.capacity = capacity6
  servable : ∀ interface row, state.applied.get? interface = some row →
    row.IsServable capacity4 capacity6

theorem InLine.tracks (inLine : state.InLine capacity4 capacity6) :
    state.Tracks capacity4 capacity6 :=
  ⟨inLine.follows4.sound, inLine.follows6, inLine.limit4, inLine.limit6, inLine.servable⟩

theorem Tracks.isSound (tracks : state.Tracks capacity4 capacity6) :
    state.IsSound capacity4 capacity6 :=
  ⟨tracks.sound4, tracks.follows6.sound, tracks.limit4, tracks.limit6⟩

theorem InLine.not_isTorn (inLine : state.InLine capacity4 capacity6) (interface : String) :
    ¬ state.IsTorn interface :=
  fun torn => torn (inLine.follows4.lists interface)

/-- A state without torn interfaces is in line. -/
theorem Tracks.inLine (tracks : state.Tracks capacity4 capacity6)
    (whole : ∀ interface, ¬ state.IsTorn interface) : state.InLine capacity4 capacity6 where
  follows4 := ⟨tracks.sound4, fun interface => not_not.1 (whole interface)⟩
  follows6 := tracks.follows6
  limit4 := tracks.limit4
  limit6 := tracks.limit6
  servable := tracks.servable

/-! ## Withdrawing -/

theorem Tracks.withdraw (tracks : state.Tracks capacity4 capacity6) (access : GroupAccess)
    (interface : String) :
    (state.withdraw access interface).after.Tracks capacity4 capacity6 := by
  have sound := tracks.isSound.withdraw access interface
  refine ⟨sound.sound4, tracks.follows6.clear access interface, sound.limit4, sound.limit6, ?_⟩
  intro other row stored
  exact tracks.servable other row (Table.get?_eq_of_get?_erase stored)

theorem Tracks.withdrawAll (tracks : state.Tracks capacity4 capacity6) (access : GroupAccess)
    (interfaces : List String) :
    (state.withdrawAll access interfaces).after.Tracks capacity4 capacity6 := by
  induction interfaces generalizing state with
  | nil => exact tracks
  | cons first rest ih => exact ih (tracks.withdraw access first)

theorem IsSound.isTorn_withdrawAll_iff (sound : state.IsSound capacity4 capacity6)
    (access : GroupAccess) (interfaces : List String) (interface : String) :
    (state.withdrawAll access interfaces).after.IsTorn interface ↔
      state.IsTorn interface ∧ interface ∉ interfaces := by
  by_cases member : interface ∈ interfaces
  · have whole := (sound.isBare_withdrawAll access member).not_isTorn
    simp [whole, member]
  · rw [isTorn_congr (sameAt_withdrawAll state access member), and_iff_left member]

/-! ## Applying rows -/

theorem Tracks.applyRow (tracks : state.Tracks capacity4 capacity6) {planned : PlannedRow}
    (isPlanned : IsPlanned capacity4 capacity6 planned) (access : GroupAccess) :
    (state.applyRow access planned).after.Tracks capacity4 capacity6 := by
  have sound := tracks.isSound.applyRow access planned
  have changes6 := changes_assign state.relay.servers6 access planned.row.name planned.v6
  rcases tracks.isSound.applyRow_cases isPlanned access with
    ⟨_, after, holds⟩ | ⟨_, _, ⟨same, _⟩ | ⟨half, _⟩⟩
  · rw [after] at holds sound ⊢
    have follows6 := tracks.follows6.of_listed sound.sound6 changes6.sameElsewhere holds.servers6
    refine ⟨sound.sound4, follows6, sound.limit4, sound.limit6, fun interface row stored => ?_⟩
    rw [Table.get?_put] at stored
    split at stored
    · exact Option.some.inj stored ▸ isPlanned.servable
    · exact tracks.servable interface row stored
  · rw [same]
    exact tracks
  · rw [half] at sound ⊢
    exact ⟨sound.sound4, tracks.follows6, sound.limit4, sound.limit6, tracks.servable⟩

/-- Only the refusal of its own join makes an interface torn. -/
theorem IsSound.isTorn_or_refused_of_applyRow (sound : state.IsSound capacity4 capacity6)
    {planned : PlannedRow} (isPlanned : IsPlanned capacity4 capacity6 planned)
    (torn : (state.applyRow access planned).after.IsTorn interface) :
    state.IsTorn interface ∨ Refused6 (state.applyRow access planned).events interface := by
  by_cases named : interface = planned.row.name
  · subst named
    rcases sound.applyRow_cases isPlanned access with
      ⟨_, _, holds⟩ | ⟨reason, _, ⟨same, _⟩ | ⟨_, _, refused⟩⟩
    · exact absurd torn holds.not_isTorn
    · exact .inl (same ▸ torn)
    · exact .inr ⟨reason, refused⟩
  · exact .inl ((isTorn_congr (sameAt_applyRow state access named)).1 torn)

theorem Tracks.applyRows {rows : List PlannedRow} (tracks : state.Tracks capacity4 capacity6)
    (isPlanned : ∀ planned ∈ rows, IsPlanned capacity4 capacity6 planned) (access : GroupAccess) :
    (state.applyRows access rows).after.Tracks capacity4 capacity6 ∧
      ∀ {interface}, (state.applyRows access rows).after.IsTorn interface →
        state.IsTorn interface ∨ Refused6 (state.applyRows access rows).events interface := by
  induction rows generalizing state with
  | nil => exact ⟨tracks, .inl⟩
  | cons planned rest ih =>
      rw [List.forall_mem_cons] at isPlanned
      have first := tracks.applyRow isPlanned.1 access
      have torn : ∀ {interface}, (state.applyRow access planned).after.IsTorn interface →
          state.IsTorn interface ∨ Refused6 (state.applyRow access planned).events interface :=
        tracks.isSound.isTorn_or_refused_of_applyRow isPlanned.1
      cases result : (state.applyRow access planned).result with
      | error fault =>
          rw [applyRows_cons_of_error result]
          exact ⟨first, torn⟩
      | ok =>
          rcases ih first isPlanned.2 with ⟨later, behind⟩
          have here := subset_events_applyRows_cons state access planned rest
          rw [applyRows_cons_of_ok result] at here ⊢
          refine ⟨later, fun still => ?_⟩
          rcases behind still with before | refused
          · exact (torn before).imp_right fun refused => refused.mono here
          · exact .inr (refused.mono (List.subset_append_right _ _))

/-- Rows that were applied are remembered, and their interfaces are healed. -/
theorem IsSound.applyRows_of_ok {rows : List PlannedRow}
    (sound : state.IsSound capacity4 capacity6)
    (isPlanned : ∀ planned ∈ rows, IsPlanned capacity4 capacity6 planned)
    (distinct : (rows.map (·.row.name)).Nodup)
    (done : (state.applyRows access rows).result = .ok ()) :
    (∀ planned ∈ rows,
        (state.applyRows access rows).after.applied.get? planned.row.name = some planned.row) ∧
      (∀ interface ∉ rows.map (·.row.name),
        (state.applyRows access rows).after.applied.get? interface =
          state.applied.get? interface) ∧
      ∀ interface, (state.applyRows access rows).after.IsTorn interface ↔
        state.IsTorn interface ∧ interface ∉ rows.map (·.row.name) := by
  have holds := sound.holds_applyRows isPlanned distinct done
  refine ⟨fun planned member => (holds planned member).remembered,
    fun interface fresh => (sameAt_applyRows state access fresh).applied, fun interface => ?_⟩
  by_cases named : interface ∈ rows.map (·.row.name)
  · rcases List.mem_map.1 named with ⟨planned, member, rfl⟩
    have whole := (holds planned member).not_isTorn
    simp [whole, named]
  · rw [isTorn_congr (sameAt_applyRows state access named), and_iff_left named]

/-! ## Applying documents -/

/-- The interfaces that a plan leaves alone are those whose rows did not change. -/
theorem row?_eq_applied_iff {applied : Table String Row}
    (distinct : (document.servedRows.map Row.name).Nodup) (interface : String) :
    document.row? interface = applied.get? interface ↔
      interface ∉ (Plan.changing settings applied document.servedRows).withdrawn ∧
        interface ∉ (Plan.changing settings applied document.servedRows).rows.map (·.row.name) := by
  have withdrawn : interface ∈ (Plan.changing settings applied document.servedRows).withdrawn ↔ _ :=
    Plan.mem_missing_iff
  rw [Document.row?, withdrawn]
  cases found : document.servedRows.find? (·.name == interface) with
  | none =>
      have unnamed : ∀ row ∈ document.servedRows, row.name ≠ interface := by
        simpa using found
      have unplanned : interface ∉
          (Plan.changing settings applied document.servedRows).rows.map (·.row.name) := by
        intro again
        rcases List.mem_map.1 again with ⟨planned, among, named⟩
        exact unnamed planned.row (Plan.changed_of_mem_changing among).1 named
      rw [and_iff_left unplanned, and_iff_left unnamed, Bool.not_eq_true,
        Option.isSome_eq_false_iff, Option.isNone_iff_eq_none, eq_comm]
  | some row =>
      have member := List.mem_of_find?_eq_some found
      have named : row.name = interface := by simpa using List.find?_some found
      subst named
      rw [and_iff_right fun absent => absent.2 row member rfl]
      constructor
      · intro same again
        rcases List.mem_map.1 again with ⟨planned, among, named⟩
        rcases Plan.changed_of_mem_changing among with ⟨also, changed⟩
        rw [List.inj_on_of_nodup_map distinct also member named] at changed
        exact changed same.symm
      · intro unplanned
        by_contra changed
        rcases Plan.exists_planned_of_changed member (Ne.symm changed) with ⟨planned, among, rfl⟩
        exact unplanned (List.mem_map_of_mem among)

theorem carryOut_of_error {plan : Plan} (skipped : List String) {fault : ConfigFault}
    (failed : ((state.withdrawAll access plan.withdrawn).after.applyRows access
      plan.rows).result = .error fault) :
    (state.carryOut access plan skipped).result = .error fault ∧
      (state.carryOut access plan skipped).after =
        ((state.withdrawAll access plan.withdrawn).after.applyRows access plan.rows).after := by
  simp only [ManagedRelay.carryOut, failed]
  exact ⟨trivial, trivial⟩

theorem Tracks.takeOver (tracks : state.Tracks capacity4 capacity6) (settings : Settings) :
    (state.takeOver settings).Tracks capacity4 capacity6 :=
  ⟨tracks.sound4, tracks.follows6, tracks.limit4, tracks.limit6, tracks.servable⟩

theorem Tracks.carryOut (tracks : state.Tracks capacity4 capacity6)
    (plannable : document.IsPlannable capacity4 capacity6 state.applied) (access : GroupAccess)
    (settings : Settings) (skipped : List String) :
    let run := state.carryOut access
      (Plan.changing settings state.applied document.servedRows) skipped
    run.after.Tracks capacity4 capacity6 ∧
      (∀ {interface}, run.after.IsTorn interface →
        state.IsTorn interface ∨ Refused6 run.events interface) ∧
      ((∃ report, run.result = .ok report) →
        (∀ interface row, run.after.applied.get? interface = some row ↔
          row ∈ document.servedRows ∧ row.name = interface) ∧
        ∀ interface, run.after.IsTorn interface ↔
          state.IsTorn interface ∧ document.row? interface = state.applied.get? interface) := by
  intro run
  have withdrawn := tracks.withdrawAll access
    (Plan.changing settings state.applied document.servedRows).withdrawn
  have healed := tracks.isSound.isTorn_withdrawAll_iff access
    (Plan.changing settings state.applied document.servedRows).withdrawn
  have events := subset_events_carryOut state access
    (Plan.changing settings state.applied document.servedRows) skipped
  rcases withdrawn.applyRows plannable.isPlanned access with ⟨after, torn⟩
  cases result : ((state.withdrawAll access
      (Plan.changing settings state.applied document.servedRows).withdrawn).after.applyRows access
      (Plan.changing settings state.applied document.servedRows).rows).result with
  | error fault =>
      rcases carryOut_of_error skipped result with ⟨failed, same⟩
      rw [show run.after = _ from same]
      refine ⟨after, fun still => ?_, ?_⟩
      · exact (torn still).imp (fun before => ((healed _).1 before).1) (·.mono events)
      · intro accepted
        rcases accepted with ⟨report, done⟩
        cases failed.symm.trans done
  | ok =>
      rcases carryOut_of_ok skipped result with ⟨_, same⟩
      rw [show run.after = _ from same]
      rcases withdrawn.isSound.applyRows_of_ok plannable.isPlanned
        (Plan.nodup_names_changing plannable.distinct) result with ⟨stored, others, whole⟩
      refine ⟨after.takeOver settings, fun still => ?_, fun _ => ⟨?_, fun interface => ?_⟩⟩
      · exact (torn still).imp (fun before => ((healed _).1 before).1) (·.mono events)
      · exact applied_iff_of_steps plannable.distinct (applied_withdrawAll state access _)
          stored others
      · rw [row?_eq_applied_iff plannable.distinct, ← and_assoc, ← healed]
        exact whole interface

/-- Applying a document, whatever joins are refused.  Only a refusal makes an interface
torn, and accepting a document heals all but those whose applied row it has. -/
theorem Tracks.apply (tracks : state.Tracks capacity4 capacity6) (access : GroupAccess)
    (document : Document) :
    let run := state.apply access document
    run.after.Tracks capacity4 capacity6 ∧
      (∀ {interface}, run.after.IsTorn interface →
        state.IsTorn interface ∨ Refused6 run.events interface) ∧
      ((∃ report, run.result = .ok report) →
        (document.servedRows.map Row.name).Nodup ∧
        (∀ interface row, run.after.applied.get? interface = some row ↔
          row ∈ document.servedRows ∧ row.name = interface) ∧
        ∀ interface, run.after.IsTorn interface ↔
          state.IsTorn interface ∧ document.row? interface = state.applied.get? interface) := by
  intro run
  by_cases plannable : ∃ settings, document.settings = .ok settings ∧
      document.IsPlannable state.relay.servers4.capacity state.relay.servers6.capacity
        state.applied
  · rcases plannable with ⟨settings, read, plannable⟩
    rcases apply_of_isPlannable access read plannable with ⟨result, after, events⟩
    rw [tracks.limit4, tracks.limit6] at plannable
    rcases tracks.carryOut plannable access settings
      ((Plan.select document.defaultVrf [] document.interfaces).skipped.map (·.name)) with
      ⟨left, torn, accepted⟩
    rw [← after] at left torn accepted
    rw [← result] at accepted
    refine ⟨left, fun still => ?_, fun done => ⟨plannable.distinct, accepted done⟩⟩
    exact (torn still).imp_right (·.mono events)
  · have fails : ∀ settings, document.settings = .ok settings →
        ¬ document.IsPlannable state.relay.servers4.capacity state.relay.servers6.capacity
          state.applied :=
      fun settings read planned => plannable ⟨settings, read, planned⟩
    rcases apply_of_not_isPlannable access fails with ⟨⟨fault, failed⟩, same⟩
    rw [show run.after = state from same]
    refine ⟨tracks, .inl, ?_⟩
    intro accepted
    rcases accepted with ⟨report, done⟩
    cases failed.symm.trans done

/-! ## Histories with refused joins -/

/-- The DHCPv6 group refused an interface in a history. -/
def WasRefused6 (state : ManagedRelay) (interface : String) :
    List (GroupAccess × Document) → Prop
  | [] => False
  | (access, document) :: rest =>
      Refused6 (state.apply access document).events interface ∨
        (state.apply access document).after.WasRefused6 interface rest

theorem Tracks.afterAll (tracks : state.Tracks capacity4 capacity6)
    (calls : List (GroupAccess × Document)) :
    (state.afterAll calls).Tracks capacity4 capacity6 ∧
      ∀ {interface}, (state.afterAll calls).IsTorn interface →
        state.IsTorn interface ∨ state.WasRefused6 interface calls := by
  induction calls generalizing state with
  | nil => exact ⟨tracks, .inl⟩
  | cons call rest ih =>
      rcases call with ⟨access, document⟩
      rcases tracks.apply access document with ⟨after, torn, _⟩
      rcases ih after with ⟨left, still⟩
      refine ⟨left, fun behind => ?_⟩
      rcases still behind with before | refused
      · exact (torn before).imp_right .inl
      · exact .inr (.inr refused)

/-- After any history an accepted document is served by the DHCPv6 roster.  The DHCPv4
roster serves it exactly if the document changes or withdraws the applied row of each
torn interface; and to be torn, an interface was once refused. -/
theorem serves_iff_of_apply_eq_ok (relay : Relay) (multicast4 multicast6 : Bool)
    {calls : List (GroupAccess × Document)} {report : RolloutReport}
    (done : (((fresh relay capacity4 capacity6 multicast4 multicast6).afterAll calls).apply
      access document).result = .ok report) :
    let start := fresh relay capacity4 capacity6 multicast4 multicast6
    let before := start.afterAll calls
    let after := (before.apply access document).after
    Serves after.relay.servers6 Row.wanted6 document.servedRows ∧
      (Serves after.relay.servers4 Row.wanted4 document.servedRows ↔
        ∀ interface, before.IsTorn interface →
          document.row? interface ≠ before.applied.get? interface) ∧
      ∀ interface, before.IsTorn interface → start.WasRefused6 interface calls := by
  intro start before after
  have inLine := inLine_fresh relay capacity4 capacity6 multicast4 multicast6
  rcases inLine.tracks.afterAll calls with ⟨tracks, refused⟩
  rcases tracks.apply access document with ⟨left, _, accepted⟩
  rcases accepted ⟨report, done⟩ with ⟨distinct, present, torn⟩
  refine ⟨left.follows6.serves distinct present, ⟨?_, ?_⟩, ?_⟩
  · intro serves interface before same
    refine (torn interface).2 ⟨before, same⟩ fun server => ?_
    constructor
    · intro listed
      by_cases named : ∃ row ∈ document.servedRows, row.name = interface
      · rcases named with ⟨row, member, rfl⟩
        have stored := (present row.name row).2 ⟨member, rfl⟩
        exact ⟨row, stored, (serves.lists row member server).1 listed⟩
      · push Not at named
        rw [serversOf_of_list?_none (serves.others interface named)] at listed
        cases listed
    · intro wanted
      rcases wanted with ⟨row, stored, asks⟩
      rcases (present interface row).1 stored with ⟨member, rfl⟩
      exact (serves.lists row member server).2 asks
  · intro healed
    have whole : ∀ interface, ¬ after.IsTorn interface := by
      intro interface still
      rcases (torn interface).1 still with ⟨before, same⟩
      exact healed interface before same
    exact (left.inLine whole).follows4.serves distinct present
  · intro interface before
    exact (refused before).resolve_left (inLine.not_isTorn interface)

/-- A group that refuses every interface. -/
def refusingJoins : GroupAccess :=
  ⟨fun _ => some "no such device", fun _ => none⟩

/-- A document with one DHCPv4 server behind one interface. -/
def helperDocument : Document :=
  plainDocument [⟨"eth1", none, ["10.0.0.5"], [], [], []⟩]

/-- A document that replaces this server and adds a DHCPv6 server. -/
def pairDocument : Document :=
  plainDocument [pairRow "eth1" "10.0.0.6" "fd00::6"]

/-- The second document meets a refusal. -/
def tornHistory : List (GroupAccess × Document) :=
  [(grantingJoins, helperDocument), (refusingJoins, pairDocument)]

/-- The second document heals the interface when it is applied again. -/
theorem serves_iff_of_apply_eq_ok_pairDocument :
    let before := (fresh (.start .default ⟨[], .zero⟩) 16 8 false true).afterAll tornHistory
    let run := before.apply grantingJoins pairDocument
    before.IsTorn "eth1" ∧ (∃ report, run.result = .ok report) ∧
      Serves run.after.relay.servers4 Row.wanted4 pairDocument.servedRows ∧
      Serves run.after.relay.servers6 Row.wanted6 pairDocument.servedRows := by
  intro before run
  have done : run.result = .ok ⟨[("eth1", .modified)], [], 0⟩ := by decide +kernel
  rcases serves_iff_of_apply_eq_ok _ false true done with ⟨serves6, serves4, refused⟩
  have torn : before.IsTorn "eth1" := by
    intro whole
    have listed : Server4.dhcp ⟨10, 0, 0, 6⟩ ∈ before.relay.servers4.serversOf "eth1" := by
      decide +kernel
    have applied : before.applied.get? "eth1" =
      some ⟨"eth1", none, ["10.0.0.5"], [], [], []⟩ := by decide +kernel
    rcases (whole _).1 listed with ⟨row, stored, asks⟩
    rw [applied, Option.some.injEq] at stored
    subst stored
    revert asks
    decide +kernel
  refine ⟨torn, ⟨_, done⟩, serves4.2 fun interface still => ?_, serves6⟩
  have first : ((fresh (.start .default ⟨[], .zero⟩) 16 8 false true).apply grantingJoins
      helperDocument).events = [.v4 (.created "eth1"), .applied "eth1" .inserted 1 0 0 0] := by
    decide +kernel
  have second : (((fresh (.start .default ⟨[], .zero⟩) 16 8 false true).apply grantingJoins
      helperDocument).after.apply refusingJoins pairDocument).events =
        [.v6 (.joinRefused "eth1" "no such device")] := by
    decide +kernel
  rcases refused interface still with ⟨_, member⟩ | ⟨_, member⟩ | nothing
  · rw [first] at member
    simp at member
  · rw [second] at member
    simp only [List.mem_singleton, RolloutEvent.v6.injEq, GroupEvent.joinRefused.injEq] at member
    rw [member.1]
    decide +kernel
  · cases nothing

/-- The first document leaves it torn. -/
theorem not_serves_helperDocument :
    let before := (fresh (.start .default ⟨[], .zero⟩) 16 8 false true).afterAll tornHistory
    let run := before.apply grantingJoins helperDocument
    (∃ report, run.result = .ok report) ∧
      run.after.relay.servers4.serversOf "eth1" = [.dhcp ⟨10, 0, 0, 6⟩] ∧
      ¬ Serves run.after.relay.servers4 Row.wanted4 helperDocument.servedRows := by
  intro before run
  have done : run.result = .ok ⟨[], [], 0⟩ := by decide +kernel
  have listed : run.after.relay.servers4.serversOf "eth1" = [.dhcp ⟨10, 0, 0, 6⟩] := by
    decide +kernel
  refine ⟨⟨_, done⟩, listed, fun serves => ?_⟩
  have row : ⟨"eth1", none, ["10.0.0.5"], [], [], []⟩ ∈ helperDocument.servedRows := by
    decide +kernel
  have asked := (serves.lists _ row (.dhcp ⟨10, 0, 0, 6⟩)).1 (listed ▸ List.mem_singleton_self _)
  revert asked
  decide +kernel

end ManagedRelay

end DhcpRelay
