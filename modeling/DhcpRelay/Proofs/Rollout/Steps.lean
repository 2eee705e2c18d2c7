import DhcpRelay.Proofs.Rollout.History

/-!
# The steps of a rollout, one interface at a time

Withdrawing an interface and applying a row change what there is about this interface
and nothing else.  A row that was applied holds, until a later step is about its interface.
A row is not applied if one of the groups refuses the interface.  The group of the DHCPv4
servers comes first, so a refusal by the other group finds them changed already.
-/

namespace DhcpRelay

open Roster

namespace Roster

variable {Server : Type} [DecidableEq Server] {roster : Roster Server}

/-- An interface stays as it is exactly if it lists the desired servers already. -/
theorem aligned_eq_self_iff {servers desired : List Server} (nodup : servers.Nodup) :
    aligned servers desired = servers ↔ ∀ server, server ∈ servers ↔ server ∈ desired := by
  constructor
  · intro same server
    have listed : server ∈ aligned servers desired ↔ server ∈ desired := mem_aligned nodup
    rw [← listed, same]
  · intro same
    have nothing : servers.filter (· ∉ desired.eraseDups) = [] := by
      simp [List.filter_eq_nil_iff, same]
    have more : desired.eraseDups.filter (· ∉ servers) = [] := by
      simp [List.filter_eq_nil_iff, same]
    rw [aligned, nothing, more, List.append_nil]
    rfl

/-- Servers that fit are listed in the end, or a join was refused and nothing changed. -/
theorem assign_of_fits [ToString Server] {desired : List Server} (sound : roster.Sound)
    (fits : desired.toFinset.card ≤ roster.capacity) (access : GroupAccess)
    (interface : String) :
    ((∃ difference, (roster.assign access interface desired).result = .ok difference) ∧
      (roster.assign access interface desired).roster.serversOf interface =
        aligned (roster.serversOf interface) desired) ∨
    ∃ reason, roster.assign access interface desired =
      ⟨.error (.membership interface reason), roster, [.joinRefused interface reason]⟩ := by
  rw [card_toFinset_eq] at fits
  rcases assign_cases sound access interface desired with
    ⟨result, list, _⟩ | ⟨large, _⟩ | ⟨reason, _, same⟩
  · exact .inl ⟨⟨_, result⟩, list⟩
  · exact absurd fits (Nat.not_le.2 large)
  · exact .inr ⟨reason, same⟩

end Roster

namespace ManagedRelay

variable {capacity4 capacity6 : Nat} {state before between after : ManagedRelay}
  {access : GroupAccess} {interface : String} {planned : PlannedRow} {rows : List PlannedRow}

/-! ## One interface -/

/-- Nothing changed about an interface. -/
structure SameAt (interface : String) (before after : ManagedRelay) : Prop where
  servers4 : after.relay.servers4.list? interface = before.relay.servers4.list? interface
  servers6 : after.relay.servers6.list? interface = before.relay.servers6.list? interface
  applied : after.applied.get? interface = before.applied.get? interface

theorem SameAt.refl (interface : String) (state : ManagedRelay) : SameAt interface state state :=
  ⟨rfl, rfl, rfl⟩

theorem SameAt.symm (same : SameAt interface before after) : SameAt interface after before :=
  ⟨same.servers4.symm, same.servers6.symm, same.applied.symm⟩

theorem SameAt.trans (first : SameAt interface before between)
    (second : SameAt interface between after) : SameAt interface before after :=
  ⟨second.servers4.trans first.servers4, second.servers6.trans first.servers6,
    second.applied.trans first.applied⟩

theorem SameAt.serversOf4 (same : SameAt interface before after) :
    after.relay.servers4.serversOf interface = before.relay.servers4.serversOf interface := by
  rw [serversOf, same.servers4, serversOf]

theorem SameAt.serversOf6 (same : SameAt interface before after) :
    after.relay.servers6.serversOf interface = before.relay.servers6.serversOf interface := by
  rw [serversOf, same.servers6, serversOf]

/-- The interface of a row lists its servers, and the row is remembered. -/
structure Holds (state : ManagedRelay) (row : Row) : Prop where
  servers4 : ∀ server, server ∈ state.relay.servers4.serversOf row.name ↔ server ∈ row.wanted4
  servers6 : ∀ server, server ∈ state.relay.servers6.serversOf row.name ↔ server ∈ row.wanted6
  remembered : state.applied.get? row.name = some row

theorem Holds.of_sameAt {row : Row} (holds : before.Holds row)
    (same : SameAt row.name before after) : after.Holds row where
  servers4 := same.serversOf4 ▸ holds.servers4
  servers6 := same.serversOf6 ▸ holds.servers6
  remembered := same.applied.trans holds.remembered

/-- An interface without servers and without row. -/
structure IsBare (state : ManagedRelay) (interface : String) : Prop where
  servers4 : state.relay.servers4.list? interface = none
  servers6 : state.relay.servers6.list? interface = none
  forgotten : state.applied.get? interface = none

theorem IsBare.of_sameAt (bare : before.IsBare interface)
    (same : SameAt interface before after) : after.IsBare interface :=
  ⟨same.servers4.trans bare.servers4, same.servers6.trans bare.servers6,
    same.applied.trans bare.forgotten⟩

/-- Lists and records of both rosters agree, and their capacities are known. -/
structure IsSound (capacity4 capacity6 : Nat) (state : ManagedRelay) : Prop where
  sound4 : state.relay.servers4.Sound
  sound6 : state.relay.servers6.Sound
  limit4 : state.relay.servers4.capacity = capacity4
  limit6 : state.relay.servers6.capacity = capacity6

/-! ## Withdrawing -/

theorem IsSound.withdraw (sound : state.IsSound capacity4 capacity6) (access : GroupAccess)
    (interface : String) : (state.withdraw access interface).after.IsSound capacity4 capacity6 where
  sound4 := (clear_spec sound.sound4 access interface).2.1
  sound6 := (clear_spec sound.sound6 access interface).2.1
  limit4 := (changes_removeEach ..).sameElsewhere.capacity.trans sound.limit4
  limit6 := (changes_removeEach ..).sameElsewhere.capacity.trans sound.limit6

theorem IsSound.isBare_withdraw (sound : state.IsSound capacity4 capacity6) (access : GroupAccess)
    (interface : String) : (state.withdraw access interface).after.IsBare interface where
  servers4 := by
    rcases clear_spec sound.sound4 access interface with ⟨_, left, none⟩
    exact (left.list?_eq interface).trans (if_pos none)
  servers6 := by
    rcases clear_spec sound.sound6 access interface with ⟨_, left, none⟩
    exact (left.list?_eq interface).trans (if_pos none)
  forgotten := Table.get?_erase_self state.applied interface

theorem sameAt_withdraw (state : ManagedRelay) (access : GroupAccess) {withdrawn : String}
    (different : interface ≠ withdrawn) :
    SameAt interface state (state.withdraw access withdrawn).after where
  servers4 := (changes_removeEach ..).sameElsewhere.others different
  servers6 := (changes_removeEach ..).sameElsewhere.others different
  applied := Table.get?_erase_of_ne state.applied different

theorem IsSound.withdrawAll (sound : state.IsSound capacity4 capacity6) (access : GroupAccess)
    (interfaces : List String) :
    (state.withdrawAll access interfaces).after.IsSound capacity4 capacity6 := by
  induction interfaces generalizing state with
  | nil => exact sound
  | cons first rest ih => exact ih (sound.withdraw access first)

theorem sameAt_withdrawAll (state : ManagedRelay) (access : GroupAccess)
    {interfaces : List String} (different : interface ∉ interfaces) :
    SameAt interface state (state.withdrawAll access interfaces).after := by
  induction interfaces generalizing state with
  | nil => exact .refl interface state
  | cons first rest ih =>
      rw [List.mem_cons, not_or] at different
      exact (sameAt_withdraw state access different.1).trans (ih _ different.2)

theorem IsSound.isBare_withdrawAll (sound : state.IsSound capacity4 capacity6)
    (access : GroupAccess) {interfaces : List String} (member : interface ∈ interfaces) :
    (state.withdrawAll access interfaces).after.IsBare interface := by
  induction interfaces generalizing state with
  | nil => cases member
  | cons first rest ih =>
      by_cases behind : interface ∈ rest
      · exact ih (sound.withdraw access first) behind
      · rcases List.mem_cons.1 member with rfl | again
        · exact (sound.isBare_withdraw access interface).of_sameAt
            (sameAt_withdrawAll _ access behind)
        · exact absurd again behind

theorem settings_withdrawAll (state : ManagedRelay) (access : GroupAccess)
    (interfaces : List String) :
    (state.withdrawAll access interfaces).after.relay.settings = state.relay.settings := by
  induction interfaces generalizing state with
  | nil => rfl
  | cons first rest ih => exact ih _

/-! ## Applying a row -/

/-- A row that is applied changes the two rosters and the remembered row of its interface,
as far as it gets. -/
theorem applyRow_parts (state : ManagedRelay) (access : GroupAccess) (planned : PlannedRow) :
    let servers4 := (state.relay.servers4.assign access planned.row.name planned.v4).roster
    let servers6 := (state.relay.servers6.assign access planned.row.name planned.v6).roster
    let run := state.applyRow access planned
    run.after.relay.settings = state.relay.settings ∧
      run.after.relay.servers4 = servers4 ∧
      (run.after.relay.servers6 = state.relay.servers6 ∨ run.after.relay.servers6 = servers6) ∧
      (run.after.applied = state.applied ∨
        run.after.applied = state.applied.put planned.row.name planned.row) := by
  intro servers4 servers6 run
  simp only [run, applyRow]
  split
  · exact ⟨rfl, rfl, .inl rfl, .inl rfl⟩
  · split
    · exact ⟨rfl, rfl, .inr rfl, .inl rfl⟩
    · exact ⟨rfl, rfl, .inr rfl, .inr rfl⟩

theorem IsSound.applyRow (sound : state.IsSound capacity4 capacity6) (access : GroupAccess)
    (planned : PlannedRow) : (state.applyRow access planned).after.IsSound capacity4 capacity6 := by
  have sound4 := sound.sound4.assign access planned.row.name planned.v4
  have sound6 := sound.sound6.assign access planned.row.name planned.v6
  have limit4 := (changes_assign state.relay.servers4 access planned.row.name
    planned.v4).sameElsewhere.capacity.trans sound.limit4
  have limit6 := (changes_assign state.relay.servers6 access planned.row.name
    planned.v6).sameElsewhere.capacity.trans sound.limit6
  rcases applyRow_parts state access planned with ⟨_, after4, same6 | after6, _⟩
  · exact ⟨after4 ▸ sound4, same6 ▸ sound.sound6, after4 ▸ limit4, same6 ▸ sound.limit6⟩
  · exact ⟨after4 ▸ sound4, after6 ▸ sound6, after4 ▸ limit4, after6 ▸ limit6⟩

theorem sameAt_applyRow (state : ManagedRelay) (access : GroupAccess)
    (different : interface ≠ planned.row.name) :
    SameAt interface state (state.applyRow access planned).after := by
  have others4 := (changes_assign state.relay.servers4 access planned.row.name
    planned.v4).sameElsewhere.others different
  have others6 := (changes_assign state.relay.servers6 access planned.row.name
    planned.v6).sameElsewhere.others different
  rcases applyRow_parts state access planned with ⟨_, after4, after6, applied⟩
  refine ⟨after4 ▸ others4, ?_, ?_⟩
  · rcases after6 with same | changed
    · rw [same]
    · exact changed ▸ others6
  · rcases applied with same | changed
    · rw [same]
    · rw [changed, Table.get?_put_of_ne _ _ different]

/-- Applying a planned row carries through, or it stops at a refused join: before it
changed anything, or with the DHCPv4 servers changed alone. -/
theorem IsSound.applyRow_cases (sound : state.IsSound capacity4 capacity6)
    (isPlanned : IsPlanned capacity4 capacity6 planned) (access : GroupAccess) :
    let servers4 := (state.relay.servers4.assign access planned.row.name planned.v4).roster
    let servers6 := (state.relay.servers6.assign access planned.row.name planned.v6).roster
    let run := state.applyRow access planned
    (run.result = .ok () ∧
      run.after = ⟨{ state.relay with servers4 := servers4, servers6 := servers6 },
        state.applied.put planned.row.name planned.row⟩ ∧
      run.after.Holds planned.row) ∨
    ∃ reason, run.result = .error (.servers (.membership planned.row.name reason)) ∧
      (run.after = state ∧ .v4 (.joinRefused planned.row.name reason) ∈ run.events ∨
        run.after = state.withServers4 servers4 ∧
          servers4.serversOf planned.row.name =
            aligned (state.relay.servers4.serversOf planned.row.name) planned.row.wanted4 ∧
          .v6 (.joinRefused planned.row.name reason) ∈ run.events) := by
  intro servers4 servers6 run
  rcases isPlanned with ⟨servable, same4, same6⟩
  have fits4 : planned.v4.toFinset.card ≤ state.relay.servers4.capacity := by
    rw [same4, sound.limit4]
    exact servable.fits4
  have fits6 : planned.v6.toFinset.card ≤ state.relay.servers6.capacity := by
    rw [same6, sound.limit6]
    exact servable.fits6
  have events4 := subset_events_applyRow4 state access planned
  rcases assign_of_fits sound.sound4 fits4 access planned.row.name with
    ⟨⟨difference4, done4⟩, list4⟩ | ⟨reason, refused4⟩
  · have events6 := subset_events_applyRow6 done4
    rcases assign_of_fits sound.sound6 fits6 access planned.row.name with
      ⟨⟨difference6, done6⟩, list6⟩ | ⟨reason, refused6⟩
    · left
      rcases applyRow_of_ok done4 done6 with ⟨result, after⟩
      refine ⟨result, after, ?_⟩
      rw [same4] at list4
      rw [same6] at list6
      rw [show run.after = _ from after, same4, same6]
      refine ⟨fun server => ?_, fun server => ?_, Table.get?_put_self ..⟩
      · exact list4 ▸ mem_aligned (sound.sound4.nodup_serversOf planned.row.name)
      · exact list6 ▸ mem_aligned (sound.sound6.nodup_serversOf planned.row.name)
    · right
      -- The DHCPv6 join comes last: the DHCPv4 servers are those of the new row by now.
      have untouched : ∀ servers, (state.withServers4 servers).relay.servers6 =
          state.relay.servers6 := fun _ => rfl
      refine ⟨reason, ?_, .inr ⟨?_, same4 ▸ list4, ?_⟩⟩
      · simp only [run, ManagedRelay.applyRow, done4, untouched, refused6]
      · simp only [run, ManagedRelay.applyRow, done4, untouched, refused6]
        rfl
      · refine events6 (List.mem_map_of_mem ?_)
        rw [refused6]
        exact List.mem_singleton_self _
  · right
    refine ⟨reason, ?_, .inl ⟨?_, ?_⟩⟩
    · simp only [run, ManagedRelay.applyRow, refused4]
    · simp only [run, ManagedRelay.applyRow, refused4]
      rfl
    · refine events4 (List.mem_map_of_mem ?_)
      rw [refused4]
      exact List.mem_singleton_self _

theorem IsSound.holds_applyRow (sound : state.IsSound capacity4 capacity6)
    (isPlanned : IsPlanned capacity4 capacity6 planned)
    (done : (state.applyRow access planned).result = .ok ()) :
    (state.applyRow access planned).after.Holds planned.row := by
  rcases sound.applyRow_cases isPlanned access with ⟨_, _, holds⟩ | ⟨reason, failed, _⟩
  · exact holds
  · cases done.symm.trans failed

/-! ## Applying rows -/

theorem applyRows_cons_of_error {planned : PlannedRow} {fault : ConfigFault}
    (failed : (state.applyRow access planned).result = .error fault) (rest : List PlannedRow) :
    state.applyRows access (planned :: rest) = state.applyRow access planned := by
  rw [applyRows]
  dsimp only
  rw [failed]
  rcases applied : state.applyRow access planned with ⟨result, after, events, visible⟩
  rw [applied] at failed
  rw [show result = .error fault from failed]

theorem IsSound.applyRows (sound : state.IsSound capacity4 capacity6) (access : GroupAccess)
    (rows : List PlannedRow) : (state.applyRows access rows).after.IsSound capacity4 capacity6 := by
  induction rows generalizing state with
  | nil => exact sound
  | cons planned rest ih =>
      have first := sound.applyRow access planned
      cases result : (state.applyRow access planned).result with
      | error fault =>
          rw [applyRows_cons_of_error result]
          exact first
      | ok =>
          rw [applyRows_cons_of_ok result]
          exact ih first

theorem sameAt_applyRows (state : ManagedRelay) (access : GroupAccess)
    {rows : List PlannedRow} (fresh : interface ∉ rows.map (·.row.name)) :
    SameAt interface state (state.applyRows access rows).after := by
  induction rows generalizing state with
  | nil => exact .refl interface state
  | cons planned rest ih =>
      rw [List.map_cons, List.mem_cons, not_or] at fresh
      have first := sameAt_applyRow state access fresh.1
      cases result : (state.applyRow access planned).result with
      | error fault =>
          rw [applyRows_cons_of_error result]
          exact first
      | ok =>
          rw [applyRows_cons_of_ok result]
          exact first.trans (ih _ fresh.2)

theorem settings_applyRows (state : ManagedRelay) (access : GroupAccess)
    (rows : List PlannedRow) :
    (state.applyRows access rows).after.relay.settings = state.relay.settings := by
  induction rows generalizing state with
  | nil => rfl
  | cons planned rest ih =>
      have first := (applyRow_parts state access planned).1
      cases result : (state.applyRow access planned).result with
      | error fault =>
          rw [applyRows_cons_of_error result]
          exact first
      | ok =>
          rw [applyRows_cons_of_ok result]
          exact (ih _).trans first

/-- Rows that were applied hold. -/
theorem IsSound.holds_applyRows {rows : List PlannedRow}
    (sound : state.IsSound capacity4 capacity6)
    (isPlanned : ∀ planned ∈ rows, IsPlanned capacity4 capacity6 planned)
    (distinct : (rows.map (·.row.name)).Nodup)
    (done : (state.applyRows access rows).result = .ok ()) :
    ∀ planned ∈ rows, (state.applyRows access rows).after.Holds planned.row := by
  induction rows generalizing state with
  | nil => simp
  | cons planned rest ih =>
      rw [List.forall_mem_cons] at isPlanned
      rw [List.map_cons, List.nodup_cons] at distinct
      cases result : (state.applyRow access planned).result with
      | error fault =>
          rw [applyRows_cons_of_error result, result] at done
          cases done
      | ok =>
          rw [applyRows_cons_of_ok result] at done ⊢
          rw [List.forall_mem_cons]
          constructor
          · exact (sound.holds_applyRow isPlanned.1 result).of_sameAt
              (sameAt_applyRows _ access distinct.1)
          · exact ih (sound.applyRow access planned) isPlanned.2 distinct.2 done

end ManagedRelay

end DhcpRelay
