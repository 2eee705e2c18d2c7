import DhcpRelay.Proofs.Rollout.Acceptance
import DhcpRelay.Rollout.Apply

/-!
# Rosters in line with rows

As long as no join is refused, each interface lists the servers that its applied
row asks for.  Every step of carrying out a plan keeps this.

A join that was refused shows among the events.
-/

namespace DhcpRelay

open Roster

/-! ## Refused joins -/

/-- The group refused an interface. -/
def GroupEvent.isRefusal : GroupEvent → Bool
  | .joinRefused _ _ => true
  | _ => false

/-- The group refused an interface while a document was applied. -/
def RolloutEvent.isRefusal (event : RolloutEvent) : Bool :=
  event.group?.any (·.isRefusal)

/-- No join was refused on the way. -/
def NoRefusal (events : List RolloutEvent) : Prop :=
  ∀ event ∈ events, event.isRefusal = false

theorem NoRefusal.mono {fewer events : List RolloutEvent} (granted : NoRefusal events)
    (subset : fewer ⊆ events) : NoRefusal fewer :=
  fun event member => granted event (subset member)

/-! ## Following rows -/

/-- The interfaces of a roster list what their rows want. -/
structure Follows {Server : Type} [DecidableEq Server] (roster : Roster Server)
    (wanted : Row → List Server) (applied : Table String Row) : Prop where
  sound : roster.Sound
  lists : ∀ interface server, server ∈ roster.serversOf interface ↔
    ∃ row, applied.get? interface = some row ∧ server ∈ wanted row

/-- A roster lists for each row the servers that it wants, and nothing else. -/
structure Serves {Server : Type} [DecidableEq Server] (roster : Roster Server)
    (wanted : Row → List Server) (rows : List Row) : Prop where
  lists : ∀ row ∈ rows, ∀ server, server ∈ roster.serversOf row.name ↔ server ∈ wanted row
  others : ∀ interface, (∀ row ∈ rows, row.name ≠ interface) → roster.list? interface = none
  counts : ∀ server, roster.count? server =
    if rows.countP (server ∈ wanted ·) = 0 then none else some (rows.countP (server ∈ wanted ·))

namespace Follows

variable {Server : Type} [DecidableEq Server] {roster : Roster Server}
  {wanted : Row → List Server} {applied : Table String Row}

theorem empty (capacity : Nat) (multicast : Bool) :
    Follows (.empty capacity multicast) wanted .empty where
  sound := sound_empty capacity multicast
  lists interface server := by
    constructor
    · exact nofun
    · exact nofun

/-- An interface without row has no list. -/
theorem list?_eq_none (follows : Follows roster wanted applied) {interface : String}
    (absent : applied.get? interface = none) : roster.list? interface = none := by
  rw [follows.sound.list?_eq, if_pos]
  rw [List.eq_nil_iff_forall_not_mem]
  intro server member
  rcases (follows.lists interface server).1 member with ⟨row, present, _⟩
  rw [absent] at present
  cases present

/-- The record of a server counts the rows that want it. -/
theorem count?_eq (follows : Follows roster wanted applied) {rows : List Row}
    (distinct : (rows.map Row.name).Nodup)
    (present : ∀ {interface row}, applied.get? interface = some row ↔
      row ∈ rows ∧ row.name = interface) (server : Server) :
    roster.count? server =
      if rows.countP (server ∈ wanted ·) = 0 then none
      else some (rows.countP (server ∈ wanted ·)) := by
  have nodup : ((rows.filter (server ∈ wanted ·)).map Row.name).Nodup :=
    (List.filter_sublist.map Row.name).nodup distinct
  have counted : roster.listings server = rows.countP (server ∈ wanted ·) := by
    rw [List.countP_eq_length_filter, ← List.length_map (f := Row.name), listings]
    refine Table.tally_eq_length nodup fun interface => ?_
    constructor
    · intro member
      rcases List.mem_map.1 member with ⟨row, among, named⟩
      rcases List.mem_filter.1 among with ⟨applied, asks⟩
      have listed := (follows.lists interface server).2
        ⟨row, present.2 ⟨applied, named⟩, of_decide_eq_true asks⟩
      exact ⟨_, list?_of_mem listed, decide_eq_true listed⟩
    · intro counted
      rcases counted with ⟨servers, listed, member⟩
      have among : server ∈ roster.serversOf interface := by
        rw [serversOf_of_list? listed]
        exact of_decide_eq_true member
      rcases (follows.lists interface server).1 among with ⟨row, stored, asks⟩
      rcases present.1 stored with ⟨applied, named⟩
      exact List.mem_map.2 ⟨row, List.mem_filter.2 ⟨applied, decide_eq_true asks⟩, named⟩
  rw [follows.sound.count?_eq, counted]

/-- Following rows that are all in force is serving them. -/
theorem serves (follows : Follows roster wanted applied) {rows : List Row}
    (distinct : (rows.map Row.name).Nodup)
    (present : ∀ interface row, applied.get? interface = some row ↔
      row ∈ rows ∧ row.name = interface) : Serves roster wanted rows where
  lists row member server := by
    have stored := (present row.name row).2 ⟨member, rfl⟩
    rw [follows.lists]
    constructor
    · intro stored
      rcases stored with ⟨found, same, asks⟩
      exact Option.some.inj (stored.symm.trans same) ▸ asks
    · intro asks
      exact ⟨row, stored, asks⟩
  others interface absent := by
    refine follows.list?_eq_none ?_
    by_contra some
    rcases Option.ne_none_iff_exists'.1 some with ⟨row, stored⟩
    rcases (present interface row).1 stored with ⟨member, named⟩
    exact absent row member named
  counts := follows.count?_eq distinct (present _ _)

variable [ToString Server]

theorem clear (follows : Follows roster wanted applied) (access : GroupAccess)
    (interface : String) :
    Follows (roster.clear access interface).roster wanted (applied.erase interface) := by
  rcases clear_spec follows.sound access interface with ⟨_, sound, none⟩
  refine ⟨sound, fun other server => ?_⟩
  rw [Table.get?_erase]
  by_cases same : other = interface
  · rw [same, none, if_pos rfl]
    constructor
    · exact nofun
    · exact nofun
  · have frame := (changes_removeEach roster access interface
      (roster.serversOf interface)).sameElsewhere
    have others := frame.serversOf same
    rw [Roster.clear, others, if_neg same]
    exact follows.lists other server

/-- Bringing the interface of a row in line with it. -/
theorem assign (follows : Follows roster wanted applied) {access : GroupAccess} {row : Row}
    (fits : (wanted row).toFinset.card ≤ roster.capacity)
    (granted : ∀ event ∈ (roster.assign access row.name (wanted row)).events,
      event.isRefusal = false) :
    (∃ difference, (roster.assign access row.name (wanted row)).result = .ok difference) ∧
      Follows (roster.assign access row.name (wanted row)).roster wanted
        (applied.put row.name row) := by
  rw [card_toFinset_eq] at fits
  rcases assign_cases follows.sound access row.name (wanted row) with
    ⟨result, list, sound⟩ | ⟨large, _⟩ | ⟨reason, _, same⟩
  · refine ⟨⟨_, result⟩, sound, fun other server => ?_⟩
    rw [Table.get?_put]
    by_cases same : other = row.name
    · rw [same, list, mem_aligned (follows.sound.nodup_serversOf row.name), if_pos rfl]
      constructor
      · intro member
        exact ⟨row, rfl, member⟩
      · intro stored
        rcases stored with ⟨_, equal, member⟩
        exact Option.some.inj equal ▸ member
    · rw [(changes_assign roster access row.name (wanted row)).sameElsewhere.serversOf same,
        if_neg same]
      exact follows.lists other server
  · exact absurd fits (Nat.not_le.2 large)
  · rw [same] at granted
    cases granted _ (List.mem_singleton_self _)

end Follows

namespace ManagedRelay

/-- Both rosters follow the applied rows, and each of these rows can be served. -/
structure InLine (capacity4 capacity6 : Nat) (state : ManagedRelay) : Prop where
  follows4 : Follows state.relay.servers4 Row.wanted4 state.applied
  follows6 : Follows state.relay.servers6 Row.wanted6 state.applied
  limit4 : state.relay.servers4.capacity = capacity4
  limit6 : state.relay.servers6.capacity = capacity6
  servable : ∀ interface row, state.applied.get? interface = some row →
    row.IsServable capacity4 capacity6

variable {capacity4 capacity6 : Nat} {state : ManagedRelay} {access : GroupAccess}

/-! ## Withdrawing -/

theorem InLine.withdraw (inLine : state.InLine capacity4 capacity6) (access : GroupAccess)
    (interface : String) : (state.withdraw access interface).after.InLine capacity4 capacity6 where
  follows4 := inLine.follows4.clear access interface
  follows6 := inLine.follows6.clear access interface
  limit4 := (changes_removeEach ..).sameElsewhere.capacity.trans inLine.limit4
  limit6 := (changes_removeEach ..).sameElsewhere.capacity.trans inLine.limit6
  servable other row stored := inLine.servable other row (Table.get?_eq_of_get?_erase stored)

theorem InLine.withdrawAll (inLine : state.InLine capacity4 capacity6) (access : GroupAccess)
    (interfaces : List String) :
    (state.withdrawAll access interfaces).after.InLine capacity4 capacity6 := by
  induction interfaces generalizing state with
  | nil => exact inLine
  | cons interface rest ih => exact ih (inLine.withdraw access interface)

theorem applied_withdrawAll (state : ManagedRelay) (access : GroupAccess)
    (interfaces : List String) (interface : String) :
    (state.withdrawAll access interfaces).after.applied.get? interface =
      if interface ∈ interfaces then none else state.applied.get? interface := by
  induction interfaces generalizing state with
  | nil => rfl
  | cons first rest ih =>
      have erased : (state.withdraw access first).after.applied = state.applied.erase first := rfl
      rw [withdrawAll, ih, erased, Table.get?_erase]
      by_cases behind : interface ∈ rest
      · rw [if_pos behind, if_pos (List.mem_cons_of_mem first behind)]
      · rw [if_neg behind]
        by_cases same : interface = first
        · rw [if_pos same, if_pos (same ▸ List.mem_cons_self)]
        · rw [if_neg same, if_neg (List.not_mem_cons_of_ne_of_not_mem same behind)]

/-! ## Applying rows -/

/-- A planned row goes with the servers that the row asks for. -/
structure IsPlanned (capacity4 capacity6 : Nat) (planned : PlannedRow) : Prop where
  servable : planned.row.IsServable capacity4 capacity6
  servers4 : planned.v4 = planned.row.wanted4
  servers6 : planned.v6 = planned.row.wanted6

theorem applyRow_of_ok {planned : PlannedRow} {difference4 : Difference Server4}
    {difference6 : Difference Server6}
    (done4 : (state.relay.servers4.assign access planned.row.name planned.v4).result =
      .ok difference4)
    (done6 : (state.relay.servers6.assign access planned.row.name planned.v6).result =
      .ok difference6) :
    (state.applyRow access planned).result = .ok () ∧
      (state.applyRow access planned).after =
        ⟨{ state.relay with
            servers4 := (state.relay.servers4.assign access planned.row.name planned.v4).roster
            servers6 := (state.relay.servers6.assign access planned.row.name planned.v6).roster },
          state.applied.put planned.row.name planned.row⟩ := by
  have same : ∀ servers4, (state.withServers4 servers4).relay.servers6 = state.relay.servers6 :=
    fun _ => rfl
  simp only [applyRow, done4, same, done6]
  exact ⟨trivial, rfl⟩

theorem subset_events_applyRow4 (state : ManagedRelay) (access : GroupAccess)
    (planned : PlannedRow) :
    (state.relay.servers4.assign access planned.row.name planned.v4).events.map .v4 ⊆
      (state.applyRow access planned).events := by
  rw [applyRow]
  dsimp only
  split
  · exact List.Subset.refl _
  · split
    · exact List.subset_append_left _ _
    · exact List.Subset.trans (List.subset_append_left _ _) (List.subset_append_left _ _)

theorem subset_events_applyRow6 {planned : PlannedRow} {difference4 : Difference Server4}
    (done4 : (state.relay.servers4.assign access planned.row.name planned.v4).result =
      .ok difference4) :
    (state.relay.servers6.assign access planned.row.name planned.v6).events.map .v6 ⊆
      (state.applyRow access planned).events := by
  rw [applyRow]
  dsimp only
  rw [done4]
  dsimp only
  split
  · exact List.subset_append_right _ _
  · exact List.Subset.trans (List.subset_append_right _ _) (List.subset_append_left _ _)

theorem InLine.applyRow (inLine : state.InLine capacity4 capacity6) {planned : PlannedRow}
    (isPlanned : IsPlanned capacity4 capacity6 planned)
    (granted : NoRefusal (state.applyRow access planned).events) :
    (state.applyRow access planned).result = .ok () ∧
      (state.applyRow access planned).after.InLine capacity4 capacity6 ∧
      (state.applyRow access planned).after.applied =
        state.applied.put planned.row.name planned.row := by
  rcases isPlanned with ⟨servable, same4, same6⟩
  have granted4 : ∀ event ∈ (state.relay.servers4.assign access planned.row.name
      planned.v4).events, event.isRefusal = false := by
    intro event member
    exact granted (.v4 event) (subset_events_applyRow4 state access planned
      (List.mem_map_of_mem member))
  rw [same4] at granted4
  rcases inLine.follows4.assign (inLine.limit4 ▸ servable.fits4) granted4 with
    ⟨⟨difference4, done4⟩, follows4⟩
  rw [← same4] at done4 follows4
  have granted6 : ∀ event ∈ (state.relay.servers6.assign access planned.row.name
      planned.v6).events, event.isRefusal = false := by
    intro event member
    exact granted (.v6 event) (subset_events_applyRow6 done4 (List.mem_map_of_mem member))
  rw [same6] at granted6
  rcases inLine.follows6.assign (inLine.limit6 ▸ servable.fits6) granted6 with
    ⟨⟨difference6, done6⟩, follows6⟩
  rw [← same6] at done6 follows6
  rcases applyRow_of_ok done4 done6 with ⟨result, after⟩
  rw [after]
  refine ⟨result, ⟨follows4, follows6, ?_, ?_, ?_⟩, rfl⟩
  · exact (changes_assign ..).sameElsewhere.capacity.trans inLine.limit4
  · exact (changes_assign ..).sameElsewhere.capacity.trans inLine.limit6
  · intro interface row stored
    rw [Table.get?_put] at stored
    split at stored
    · exact Option.some.inj stored ▸ servable
    · exact inLine.servable interface row stored

theorem applyRows_cons_of_ok {planned : PlannedRow} {rest : List PlannedRow}
    (done : (state.applyRow access planned).result = .ok ()) :
    state.applyRows access (planned :: rest) =
      let first := state.applyRow access planned
      let later := first.after.applyRows access rest
      ⟨later.result, later.after, first.events ++ later.events,
        first.visible ++ later.visible⟩ := by
  rw [applyRows]
  dsimp only
  rw [done]

theorem subset_events_applyRows_cons (state : ManagedRelay) (access : GroupAccess)
    (planned : PlannedRow) (rest : List PlannedRow) :
    (state.applyRow access planned).events ⊆
      (state.applyRows access (planned :: rest)).events := by
  rw [applyRows]
  dsimp only
  split
  · exact List.Subset.refl _
  · exact List.subset_append_left _ _

/-- Rows that are planned are all applied, and remembered under their names. -/
theorem InLine.applyRows {rows : List PlannedRow} (inLine : state.InLine capacity4 capacity6)
    (isPlanned : ∀ planned ∈ rows, IsPlanned capacity4 capacity6 planned)
    (distinct : (rows.map (·.row.name)).Nodup)
    (granted : NoRefusal (state.applyRows access rows).events) :
    (state.applyRows access rows).result = .ok () ∧
      (state.applyRows access rows).after.InLine capacity4 capacity6 ∧
      (∀ planned ∈ rows,
        (state.applyRows access rows).after.applied.get? planned.row.name = some planned.row) ∧
      ∀ interface ∉ rows.map (·.row.name),
        (state.applyRows access rows).after.applied.get? interface =
          state.applied.get? interface := by
  induction rows generalizing state with
  | nil => exact ⟨rfl, inLine, nofun, fun _ _ => rfl⟩
  | cons planned rest ih =>
      rw [List.map_cons, List.nodup_cons] at distinct
      rcases inLine.applyRow (isPlanned planned List.mem_cons_self)
          (granted.mono (subset_events_applyRows_cons state access planned rest)) with
        ⟨done, after, applied⟩
      rw [applyRows_cons_of_ok done] at granted ⊢
      rcases ih after
          (fun other member => isPlanned other (List.mem_cons_of_mem planned member)) distinct.2
          (granted.mono (List.subset_append_right _ _)) with ⟨result, left, stored, others⟩
      refine ⟨result, left, ?_, ?_⟩
      · intro other member
        rcases List.mem_cons.1 member with rfl | behind
        · rw [others other.row.name distinct.1, applied, Table.get?_put_self]
        · exact stored other behind
      · intro interface fresh
        rw [List.map_cons, List.mem_cons, not_or] at fresh
        rw [others interface fresh.2, applied, Table.get?_put_of_ne _ _ fresh.1]

end ManagedRelay

end DhcpRelay
