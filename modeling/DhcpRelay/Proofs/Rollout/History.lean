import DhcpRelay.Proofs.Rollout.InLine
import Mathlib.Data.String.Basic

/-!
# Histories of documents

A history is a series of documents, each with what the group answers while it is
applied.  As long as no join is refused, the relay looks after each accepted
document as if nothing else had ever been applied to it.
-/

namespace DhcpRelay

/-! ## The rows of a plan -/

namespace Plan

variable {settings : Settings} {applied : Table String Row} {rows : List Row}

theorem mem_missing_iff {name : String} :
    name ∈ missing applied rows ↔
      (applied.get? name).isSome ∧ ∀ row ∈ rows, row.name ≠ name := by
  rw [missing, List.mem_filter, List.mem_mergeSort, Table.mem_keys_iff, List.all_eq_true]
  simp only [bne_iff_ne]

theorem mem_changing_rows_iff {planned : PlannedRow} :
    planned ∈ (changing settings applied rows).rows ↔
      ∃ row ∈ rows, planned? applied row = some planned := by
  simp only [changing, List.mem_filterMap, mem_sortRows]

theorem row_of_planned? {row : Row} {planned : PlannedRow}
    (isPlanned : planned? applied row = some planned) : planned.row = row := by
  rcases Option.map_eq_some_iff.1 isPlanned with ⟨_, _, rfl⟩
  rfl

/-- Rows that changed are planned. -/
theorem exists_planned_of_changed {row : Row} (member : row ∈ rows)
    (changed : applied.get? row.name ≠ some row) :
    ∃ planned ∈ (changing settings applied rows).rows, planned.row = row := by
  rcases Option.ne_none_iff_exists'.1 (mt statusOf_eq_none_iff.1 changed) with ⟨change, status⟩
  refine ⟨⟨row, change, row.wanted4, row.wanted6⟩, ?_, rfl⟩
  rw [mem_changing_rows_iff]
  refine ⟨row, member, ?_⟩
  rw [planned?, status]
  rfl

/-- Only rows that changed are planned. -/
theorem changed_of_mem_changing {planned : PlannedRow}
    (member : planned ∈ (changing settings applied rows).rows) :
    planned.row ∈ rows ∧ applied.get? planned.row.name ≠ some planned.row := by
  rcases mem_changing_rows_iff.1 member with ⟨row, among, isPlanned⟩
  rw [row_of_planned? isPlanned]
  refine ⟨among, fun same => ?_⟩
  rw [planned?, statusOf_eq_none_iff.2 same] at isPlanned
  cases isPlanned

theorem pairwise_names_changing (distinct : (rows.map Row.name).Nodup) :
    (changing settings applied rows).rows.Pairwise fun first later =>
      first.row.name < later.row.name := by
  have sorted : (sortRows rows).Pairwise fun first later =>
      decide (first.name ≤ later.name) = true :=
    List.pairwise_mergeSort (fun _ _ _ => by simpa using le_trans)
      (fun first later => by simpa using le_total first.name later.name) rows
  have apart : (sortRows rows).Pairwise fun first later => first.name ≠ later.name :=
    List.pairwise_map.1 (((List.mergeSort_perm rows _).map Row.name).nodup_iff.2 distinct)
  refine List.Pairwise.filterMap (planned? applied) ?_ (sorted.and apart)
  intro first second both row isFirst other isSecond
  rw [row_of_planned? isFirst, row_of_planned? isSecond]
  exact lt_of_le_of_ne (of_decide_eq_true both.1) both.2

theorem nodup_names_changing (distinct : (rows.map Row.name).Nodup) :
    ((changing settings applied rows).rows.map (·.row.name)).Nodup :=
  List.pairwise_map.2 ((pairwise_names_changing distinct).imp fun before => ne_of_lt before)

end Plan

theorem Document.IsPlannable.isPlanned {document : Document} {settings : Settings}
    {applied : Table String Row} {capacity4 capacity6 : Nat}
    (plannable : document.IsPlannable capacity4 capacity6 applied) :
    ∀ planned ∈ (Plan.changing settings applied document.servedRows).rows,
      ManagedRelay.IsPlanned capacity4 capacity6 planned := by
  intro planned member
  rcases Plan.changed_of_mem_changing member with ⟨among, changed⟩
  rcases Plan.mem_changing_rows_iff.1 member with ⟨row, _, isPlanned⟩
  rcases Option.map_eq_some_iff.1 isPlanned with ⟨_, _, rfl⟩
  exact ⟨plannable.servable row among changed, rfl, rfl⟩

namespace ManagedRelay

variable {capacity4 capacity6 : Nat} {state : ManagedRelay} {access : GroupAccess}
  {document : Document} {settings : Settings}

/-! ## Carrying out a plan -/

/-- The rows that are applied in the end, from what the two steps of carrying out a
plan did to them. -/
theorem applied_iff_of_steps {applied between after : Table String Row} {rows : List Row}
    (distinct : (rows.map Row.name).Nodup)
    (withdrawn : ∀ interface, between.get? interface =
      if interface ∈ Plan.missing applied rows then none else applied.get? interface)
    (stored : ∀ planned ∈ (Plan.changing settings applied rows).rows,
      after.get? planned.row.name = some planned.row)
    (others : ∀ interface ∉ (Plan.changing settings applied rows).rows.map (·.row.name),
      after.get? interface = between.get? interface) (interface : String) (row : Row) :
    after.get? interface = some row ↔ row ∈ rows ∧ row.name = interface := by
  have remembered : ∀ row ∈ rows, after.get? row.name = some row := by
    intro row member
    by_cases same : applied.get? row.name = some row
    · have fresh : row.name ∉ (Plan.changing settings applied rows).rows.map (·.row.name) := by
        intro again
        rcases List.mem_map.1 again with ⟨planned, among, named⟩
        rcases Plan.changed_of_mem_changing among with ⟨also, changed⟩
        rw [List.inj_on_of_nodup_map distinct also member named] at changed
        exact changed same
      have present : row.name ∉ Plan.missing applied rows := by
        intro absent
        exact (Plan.mem_missing_iff.1 absent).2 row member rfl
      rw [others row.name fresh, withdrawn, if_neg present, same]
    · rcases Plan.exists_planned_of_changed member same with ⟨planned, among, rfl⟩
      exact stored planned among
  constructor
  · intro found
    by_cases named : ∃ other ∈ rows, other.name = interface
    · rcases named with ⟨other, member, rfl⟩
      have equal := Option.some.inj ((remembered other member).symm.trans found)
      exact equal ▸ ⟨member, rfl⟩
    · push Not at named
      have fresh : interface ∉ (Plan.changing settings applied rows).rows.map (·.row.name) := by
        intro again
        rcases List.mem_map.1 again with ⟨planned, among, same⟩
        exact named planned.row (Plan.changed_of_mem_changing among).1 same
      rw [others interface fresh, withdrawn] at found
      split at found
      · cases found
      · rename_i kept
        have some : (applied.get? interface).isSome := Option.isSome_iff_exists.2 ⟨row, found⟩
        exact absurd (Plan.mem_missing_iff.2 ⟨some, named⟩) kept
  · intro present
    rcases present with ⟨member, rfl⟩
    exact remembered row member

theorem carryOut_of_ok {plan : Plan} (skipped : List String)
    (done : ((state.withdrawAll access plan.withdrawn).after.applyRows access plan.rows).result =
      .ok ()) :
    (state.carryOut access plan skipped).result =
        .ok {
          changes := plan.withdrawn.map (·, .deleted) ++
            plan.rows.map fun planned => (planned.row.name, planned.change)
          skipped := skipped
          togglesChanged := (state.relay.settings.changes plan.settings).length } ∧
      (state.carryOut access plan skipped).after =
        ((state.withdrawAll access plan.withdrawn).after.applyRows access
          plan.rows).after.takeOver plan.settings := by
  simp only [ManagedRelay.carryOut, done]
  exact ⟨trivial, trivial⟩

theorem subset_events_carryOut (state : ManagedRelay) (access : GroupAccess) (plan : Plan)
    (skipped : List String) :
    ((state.withdrawAll access plan.withdrawn).after.applyRows access plan.rows).events ⊆
      (state.carryOut access plan skipped).events := by
  rw [ManagedRelay.carryOut]
  dsimp only
  split
  · exact List.subset_append_right _ _
  · exact List.Subset.trans (List.subset_append_right _ _) (List.subset_append_left _ _)

/-- Carrying out a plan for rows leaves these rows applied and no others. -/
theorem InLine.carryOut (inLine : state.InLine capacity4 capacity6)
    (plannable : document.IsPlannable capacity4 capacity6 state.applied) {skipped : List String}
    (granted : NoRefusal (state.carryOut access
      (Plan.changing settings state.applied document.servedRows) skipped).events) :
    let run := state.carryOut access
      (Plan.changing settings state.applied document.servedRows) skipped
    (∃ report, run.result = .ok report) ∧ run.after.InLine capacity4 capacity6 ∧
      run.after.relay.settings = settings ∧
      ∀ interface row, run.after.applied.get? interface = some row ↔
        row ∈ document.servedRows ∧ row.name = interface := by
  intro run
  have withdrawn := inLine.withdrawAll access
    (Plan.changing settings state.applied document.servedRows).withdrawn
  have events := subset_events_carryOut state access
    (Plan.changing settings state.applied document.servedRows) skipped
  rcases withdrawn.applyRows plannable.isPlanned
      (Plan.nodup_names_changing plannable.distinct) (granted.mono events) with
    ⟨done, left, stored, others⟩
  rcases carryOut_of_ok skipped done with ⟨result, after⟩
  refine ⟨⟨_, result⟩, ?_, ?_, ?_⟩
  · rw [show run.after = _ from after]
    exact ⟨left.follows4, left.follows6, left.limit4, left.limit6, left.servable⟩
  · rw [show run.after = _ from after]
    rfl
  · rw [show run.after = _ from after]
    exact applied_iff_of_steps plannable.distinct (applied_withdrawAll state access _) stored others

/-! ## Applying a document -/

theorem isAcceptable_iff (inLine : state.InLine capacity4 capacity6) :
    document.IsAcceptable capacity4 capacity6 ↔
      (∃ settings, document.settings = .ok settings) ∧
        document.IsPlannable capacity4 capacity6 state.applied := by
  constructor
  · intro acceptable
    rcases acceptable with ⟨read, named, distinct, servable⟩
    exact ⟨read, named, distinct, fun row member _ => servable row member⟩
  · intro plannable
    rcases plannable with ⟨read, named, distinct, servable⟩
    refine ⟨read, named, distinct, fun row member => ?_⟩
    by_cases same : state.applied.get? row.name = some row
    · exact inLine.servable row.name row same
    · exact servable row member same

/-- A document that can be planned is carried out. -/
theorem apply_of_isPlannable (access : GroupAccess) (read : document.settings = .ok settings)
    (plannable : document.IsPlannable state.relay.servers4.capacity
      state.relay.servers6.capacity state.applied) :
    let skipped :=
      (Plan.select document.defaultVrf [] document.interfaces).skipped.map (·.name)
    let run := state.carryOut access
      (Plan.changing settings state.applied document.servedRows) skipped
    (state.apply access document).result = run.result ∧
      (state.apply access document).after = run.after ∧
      run.events ⊆ (state.apply access document).events := by
  have planned : (Plan.select document.defaultVrf [] document.interfaces).rows.bind
      (Plan.ofRows settings state.applied state.relay.servers4.capacity
        state.relay.servers6.capacity) =
      .ok (Plan.changing settings state.applied document.servedRows) :=
    Document.plan_eq_ok_iff.2 ⟨plannable, rfl⟩
  rw [ManagedRelay.apply, read]
  dsimp only
  rw [planned]
  exact ⟨rfl, rfl, List.subset_append_right _ _⟩

/-- A document that has no plan fails with the fault of the plan. -/
theorem apply_of_plan_eq_error (access : GroupAccess) (read : document.settings = .ok settings)
    {fault : ConfigFault}
    (failed : (Plan.select document.defaultVrf [] document.interfaces).rows.bind
      (Plan.ofRows settings state.applied state.relay.servers4.capacity
        state.relay.servers6.capacity) = .error fault) :
    state.apply access document =
      ⟨.error fault, state,
        (Plan.select document.defaultVrf [] document.interfaces).skipped.map fun row =>
          .skipped row.name (row.vrf.getD ""), []⟩ := by
  rw [ManagedRelay.apply, read]
  dsimp only
  rw [failed]

/-- Any other document changes nothing. -/
theorem apply_of_not_isPlannable (access : GroupAccess)
    (fails : ∀ settings, document.settings = .ok settings →
      ¬ document.IsPlannable state.relay.servers4.capacity state.relay.servers6.capacity
        state.applied) :
    (∃ fault, (state.apply access document).result = .error fault) ∧
      (state.apply access document).after = state := by
  rw [ManagedRelay.apply]
  split
  · exact ⟨⟨_, rfl⟩, rfl⟩
  · rename_i settings read
    dsimp only
    split
    · exact ⟨⟨_, rfl⟩, rfl⟩
    · rename_i plan planned
      exact absurd (Document.plan_eq_ok_iff.1 planned).1 (fails settings read)

/-- Applying a document with no join refused: it is accepted exactly if it is
acceptable, and then its rows are applied and no others. -/
theorem InLine.apply (inLine : state.InLine capacity4 capacity6)
    (granted : NoRefusal (state.apply access document).events) :
    let run := state.apply access document
    run.after.InLine capacity4 capacity6 ∧
      ((∃ report, run.result = .ok report) ↔ document.IsAcceptable capacity4 capacity6) ∧
      (document.IsAcceptable capacity4 capacity6 →
        document.settings = .ok run.after.relay.settings ∧
          ∀ interface row, run.after.applied.get? interface = some row ↔
            row ∈ document.servedRows ∧ row.name = interface) := by
  intro run
  by_cases acceptable : document.IsAcceptable capacity4 capacity6
  · rcases (isAcceptable_iff inLine).1 acceptable with ⟨⟨settings, read⟩, plannable⟩
    rw [← inLine.limit4, ← inLine.limit6] at plannable
    rcases apply_of_isPlannable access read plannable with ⟨result, after, events⟩
    rw [inLine.limit4, inLine.limit6] at plannable
    rcases inLine.carryOut plannable (granted.mono events) with ⟨done, left, taken, applied⟩
    rw [← result] at done
    rw [← after] at left taken applied
    exact ⟨left, ⟨fun _ => acceptable, fun _ => done⟩, fun _ => ⟨taken ▸ read, applied⟩⟩
  · have fails : ∀ settings, document.settings = .ok settings →
        ¬ document.IsPlannable state.relay.servers4.capacity state.relay.servers6.capacity
          state.applied := by
      intro settings read plannable
      rw [inLine.limit4, inLine.limit6] at plannable
      exact acceptable ((isAcceptable_iff inLine).2 ⟨⟨settings, read⟩, plannable⟩)
    rcases apply_of_not_isPlannable access fails with ⟨⟨fault, failed⟩, same⟩
    refine ⟨?_, ⟨?_, fun accepted => absurd accepted acceptable⟩,
      fun accepted => absurd accepted acceptable⟩
    · rw [show run.after = state from same]
      exact inLine
    · intro accepted
      rcases accepted with ⟨report, done⟩
      cases failed.symm.trans done

/-! ## Applying a document again -/

theorem changes_self (settings : Settings) : settings.changes settings = [] := by
  simp [Settings.changes, Settings.change]

/-- Rows that are all applied, with no others, leave nothing to do. -/
theorem changing_of_applied {applied : Table String Row} {rows : List Row}
    (present : ∀ interface row, applied.get? interface = some row ↔
      row ∈ rows ∧ row.name = interface) :
    Plan.changing settings applied rows = ⟨[], [], settings⟩ := by
  have none : Plan.missing applied rows = [] := by
    rw [List.eq_nil_iff_forall_not_mem]
    intro name member
    rcases Plan.mem_missing_iff.1 member with ⟨some, absent⟩
    rcases Option.isSome_iff_exists.1 some with ⟨row, stored⟩
    rcases (present name row).1 stored with ⟨among, named⟩
    exact absent row among named
  have unchanged : (Plan.changing settings applied rows).rows = [] := by
    rw [List.eq_nil_iff_forall_not_mem]
    intro planned member
    rcases Plan.changed_of_mem_changing member with ⟨among, changed⟩
    exact changed ((present planned.row.name planned.row).2 ⟨among, rfl⟩)
  rw [Plan.changing] at unchanged ⊢
  rw [none, show (Plan.sortRows rows).filterMap (Plan.planned? applied) = [] from unchanged]

/-- A document whose settings and rows are in force changes nothing. -/
theorem apply_of_applied (access : GroupAccess) (named : ∀ row ∈ document.servedRows, row.name ≠ "")
    (distinct : (document.servedRows.map Row.name).Nodup)
    (read : document.settings = .ok state.relay.settings)
    (present : ∀ interface row, state.applied.get? interface = some row ↔
      row ∈ document.servedRows ∧ row.name = interface) :
    (∃ report, (state.apply access document).result = .ok report ∧ report.isEmpty = true) ∧
      (state.apply access document).after = state := by
  have plannable : document.IsPlannable state.relay.servers4.capacity
      state.relay.servers6.capacity state.applied :=
    ⟨named, distinct, fun row member changed =>
      absurd ((present row.name row).2 ⟨member, rfl⟩) changed⟩
  rcases apply_of_isPlannable access read plannable with ⟨result, after, _⟩
  rw [changing_of_applied present] at result after
  refine ⟨⟨_, result, ?_⟩, after⟩
  simp [RolloutReport.isEmpty, changes_self]

/-! ## Histories -/

/-- A relay that nothing was applied to, with rosters of any capacity. -/
def fresh (relay : Relay) (capacity4 capacity6 : Nat) (multicast4 multicast6 : Bool) :
    ManagedRelay :=
  ⟨{ relay with
      servers4 := .empty capacity4 multicast4
      servers6 := .empty capacity6 multicast6 }, .empty⟩

/-- The relay after a history. -/
def afterAll (state : ManagedRelay) : List (GroupAccess × Document) → ManagedRelay
  | [] => state
  | (access, document) :: rest => (state.apply access document).after.afterAll rest

/-- No join is refused in a history. -/
def GrantsAll (state : ManagedRelay) : List (GroupAccess × Document) → Prop
  | [] => True
  | (access, document) :: rest =>
      NoRefusal (state.apply access document).events ∧
        (state.apply access document).after.GrantsAll rest

theorem inLine_fresh (relay : Relay) (capacity4 capacity6 : Nat) (multicast4 multicast6 : Bool) :
    (fresh relay capacity4 capacity6 multicast4 multicast6).InLine capacity4 capacity6 where
  follows4 := .empty capacity4 multicast4
  follows6 := .empty capacity6 multicast6
  limit4 := rfl
  limit6 := rfl
  servable := nofun

theorem InLine.afterAll (inLine : state.InLine capacity4 capacity6)
    {calls : List (GroupAccess × Document)} (granted : state.GrantsAll calls) :
    (state.afterAll calls).InLine capacity4 capacity6 := by
  induction calls generalizing state with
  | nil => exact inLine
  | cons call rest ih => exact ih (inLine.apply granted.1).1 granted.2

/-- After a history in which no join is refused, a document is accepted exactly if it
is acceptable by itself.  Both rosters then serve its rows, its settings hold, and
applying it again changes nothing. -/
theorem serves_of_apply (relay : Relay) (multicast4 multicast6 : Bool)
    {calls : List (GroupAccess × Document)}
    (grantedBefore : (fresh relay capacity4 capacity6 multicast4 multicast6).GrantsAll calls)
    (granted : NoRefusal (((fresh relay capacity4 capacity6 multicast4 multicast6).afterAll
      calls).apply access document).events) :
    let run := ((fresh relay capacity4 capacity6 multicast4 multicast6).afterAll calls).apply
      access document
    ((∃ report, run.result = .ok report) ↔ document.IsAcceptable capacity4 capacity6) ∧
      ∀ report, run.result = .ok report →
        Serves run.after.relay.servers4 Row.wanted4 document.servedRows ∧
          Serves run.after.relay.servers6 Row.wanted6 document.servedRows ∧
          document.settings = .ok run.after.relay.settings ∧
          ∀ later, (∃ again, (run.after.apply later document).result = .ok again ∧
            again.isEmpty = true) ∧ (run.after.apply later document).after = run.after := by
  intro run
  have inLine := (inLine_fresh relay capacity4 capacity6 multicast4 multicast6).afterAll
    grantedBefore
  rcases inLine.apply granted with ⟨after, accepted, inForce⟩
  refine ⟨accepted, fun report done => ?_⟩
  have acceptable := accepted.1 ⟨report, done⟩
  rcases inForce acceptable with ⟨read, present⟩
  exact ⟨after.follows4.serves acceptable.distinct present,
    after.follows6.serves acceptable.distinct present, read,
    fun later => apply_of_applied later acceptable.named acceptable.distinct read present⟩

/-- A row with one DHCPv4 and one DHCPv6 server. -/
def pairRow (name helper unicast : String) : Row :=
  ⟨name, none, [helper], [], [unicast], []⟩

/-- A row outside the VRF that is served. -/
def foreignRow : Row :=
  { pairRow "eth1" "10.0.0.5" "fd00::5" with vrf := some "other" }

/-- A document without settings. -/
def plainDocument (rows : List Row) : Document :=
  ⟨Document.standardVrf, .empty, rows⟩

/-- A group that grants joins but not leaves. -/
def grantingJoins : GroupAccess :=
  ⟨fun _ => none, fun _ => some "busy"⟩

/-- A document with one interface, and one with a repeated name. -/
def sampleHistory : List (GroupAccess × Document) :=
  [(grantingJoins, plainDocument [pairRow "eth1" "10.0.0.5" "fd00::5"]),
    (grantingJoins, plainDocument [pairRow "eth2" "10.0.0.5" "fd00::5",
      pairRow "eth2" "10.0.0.6" "fd00::6"])]

/-- What follows it: the first interface changes its VRF, another one appears. -/
def sampleDocument : Document :=
  plainDocument [foreignRow, pairRow "eth2" "10.0.0.5" "fd00::6"]

theorem serves_of_apply_sampleDocument :
    let start := fresh (.start .default ⟨[], .zero⟩) 16 8 false true
    let run := (start.afterAll sampleHistory).apply grantingJoins sampleDocument
    start.GrantsAll sampleHistory ∧ NoRefusal run.events ∧ (∃ report, run.result = .ok report) ∧
      Serves run.after.relay.servers4 Row.wanted4 sampleDocument.servedRows ∧
      Serves run.after.relay.servers6 Row.wanted6 sampleDocument.servedRows := by
  intro start run
  have granted : start.GrantsAll sampleHistory := by
    refine ⟨?_, ?_, trivial⟩
    · rw [NoRefusal]
      decide +kernel
    · rw [NoRefusal]
      decide +kernel
  have grantedNow : NoRefusal run.events := by
    rw [NoRefusal]
    decide +kernel
  have done : run.result =
      .ok ⟨[("eth1", .deleted), ("eth2", .inserted)], ["eth1"], 0⟩ := by
    decide +kernel
  rcases (serves_of_apply _ false true granted grantedNow).2 _ done with ⟨serves4, serves6, _⟩
  exact ⟨granted, grantedNow, ⟨_, done⟩, serves4, serves6⟩

end ManagedRelay

end DhcpRelay
