import DhcpRelay.Proofs.Rollout.Failure

/-!
# What packets see of a rollout

A rollout is a series of updates, each of one roster and at one interface, and no two of
them are of the same roster and at the same interface.  So packets that look up the servers
of an interface meanwhile find those from before the rollout, and from some moment on those
from after it.
-/

namespace DhcpRelay

open Roster

namespace Relay

/-- What an update is about: the servers of an interface, or the settings. -/
inductive Subject where
  | servers4 (interface : String)
  | servers6 (interface : String)
  | settings
  deriving DecidableEq

/-- One update: a call on one of the rosters, or settings that are taken over.  Packets see
the relay before it or after it. -/
inductive Update : Subject → Relay → Relay → Prop where
  | servers4 (relay : Relay) (access : GroupAccess) (operation : Operation Server4) :
      Update (.servers4 operation.interface) relay
        { relay with servers4 := relay.servers4.perform access operation }
  | servers6 (relay : Relay) (access : GroupAccess) (operation : Operation Server6) :
      Update (.servers6 operation.interface) relay
        { relay with servers6 := relay.servers6.perform access operation }
  | settings (relay : Relay) (settings : Settings) :
      Update .settings relay { relay with settings := settings }

/-- Updates one after the other, with what they are about and the relay after each. -/
inductive Updates : Relay → List Subject → List Relay → Relay → Prop where
  | nil (relay : Relay) : Updates relay [] [] relay
  | cons {subject : Subject} {subjects : List Subject} {relay next last : Relay}
      {visible : List Relay} :
      Update subject relay next → Updates next subjects visible last →
      Updates relay (subject :: subjects) (next :: visible) last

variable {Value : Type} {subject : Subject} {subjects others : List Subject}
  {before between after : Relay} {visible later : List Relay} {view : Relay → Value}

theorem Updates.single (update : Update subject before after) :
    Updates before [subject] [after] after :=
  .cons update (.nil after)

theorem Updates.append (first : Updates before subjects visible between)
    (second : Updates between others later after) :
    Updates before (subjects ++ others) (visible ++ later) after := by
  induction first with
  | nil => exact second
  | cons update _ ih => exact .cons update (ih second)

/-- What is seen of the relay changes with updates about one subject only. -/
def DependsOn (view : Relay → Value) (subject : Subject) : Prop :=
  ∀ {other before after}, Update other before after → other ≠ subject → view after = view before

theorem dependsOn_servers4 (interface : String) :
    DependsOn (fun relay => relay.servers4.list? interface) (.servers4 interface) := by
  intro other before after update different
  cases update with
  | servers4 _ access operation =>
      have elsewhere : interface ≠ operation.interface := by
        intro same
        exact different (congrArg Subject.servers4 same.symm)
      exact (changes_perform ..).sameElsewhere.others elsewhere
  | servers6 => rfl
  | settings => rfl

theorem dependsOn_servers6 (interface : String) :
    DependsOn (fun relay => relay.servers6.list? interface) (.servers6 interface) := by
  intro other before after update different
  cases update with
  | servers4 => rfl
  | servers6 _ access operation =>
      have elsewhere : interface ≠ operation.interface := by
        intro same
        exact different (congrArg Subject.servers6 same.symm)
      exact (changes_perform ..).sameElsewhere.others elsewhere
  | settings => rfl

/-- Without an update about its subject a view never changes. -/
theorem Updates.eq_of_not_mem (updates : Updates before subjects visible after)
    (depends : DependsOn view subject) (untouched : subject ∉ subjects) :
    (∀ relay ∈ visible, view relay = view before) ∧ view after = view before := by
  induction updates with
  | nil relay => simp
  | cons update _ ih =>
      rw [List.mem_cons, not_or] at untouched
      have kept := depends update (Ne.symm untouched.1)
      rcases ih untouched.2 with ⟨seen, last⟩
      refine ⟨?_, last.trans kept⟩
      rw [List.forall_mem_cons]
      exact ⟨kept, fun relay member => (seen relay member).trans kept⟩

/-- At each moment, counted in updates, the view is the one from before up to some moment,
and the one from afterwards from then on. -/
def TurnsOver (view : Relay → Value) (before : Relay) (visible : List Relay) (after : Relay) :
    Prop :=
  ∃ turn : Nat, ∀ (moment : Nat) (relay : Relay), (before :: visible)[moment]? = some relay →
    view relay = if moment < turn then view before else view after

theorem TurnsOver.eq_or_eq (turnsOver : TurnsOver view before visible after) {relay : Relay}
    (member : relay ∈ visible) : view relay = view before ∨ view relay = view after := by
  rcases turnsOver with ⟨turn, found⟩
  rcases List.getElem?_of_mem (List.mem_cons_of_mem before member) with ⟨moment, present⟩
  rw [found moment relay present]
  by_cases early : moment < turn
  · exact .inl (if_pos early)
  · exact .inr (if_neg early)

/-- Where no two updates are about the same, a view changes once at most. -/
theorem Updates.turnsOver (updates : Updates before subjects visible after)
    (depends : DependsOn view subject) (distinct : subjects.Nodup) :
    TurnsOver view before visible after := by
  induction updates with
  | nil relay =>
      refine ⟨1, fun moment other present => ?_⟩
      rw [ite_self]
      rw [List.getElem?_singleton] at present
      split at present
      · rw [Option.some.inj present]
      · cases present
  | @cons first rest relay next last visible update behind ih =>
      rw [List.nodup_cons] at distinct
      by_cases own : first = subject
      · -- The view changes here if at all: nothing behind this update is about the subject.
        rw [own] at distinct
        rcases behind.eq_of_not_mem depends distinct.1 with ⟨seen, same⟩
        refine ⟨1, fun moment other present => ?_⟩
        cases moment with
        | zero => rw [← Option.some.inj present, if_pos Nat.one_pos]
        | succ moment =>
            rw [List.getElem?_cons_succ] at present
            rw [if_neg (Nat.not_lt.2 (Nat.le_add_left 1 moment)), same]
            rcases List.mem_cons.1 (List.mem_of_getElem? present) with rfl | member
            · rfl
            · exact seen other member
      · have kept := depends update own
        rcases ih distinct.2 with ⟨turn, found⟩
        refine ⟨turn + 1, fun moment other present => ?_⟩
        cases moment with
        | zero => rw [← Option.some.inj present, if_pos (Nat.succ_pos turn)]
        | succ moment =>
            rw [found moment other present, kept]
            simp only [Nat.add_lt_add_iff_right]

end Relay

namespace ManagedRelay

open Relay

variable {state : ManagedRelay} {access : GroupAccess} {document : Document}

/-! ## The updates of a rollout -/

/-- What an interface has in the two rosters. -/
def subjectsOf (interface : String) : List Subject :=
  [.servers4 interface, .servers6 interface]

theorem nodup_flatMap_subjectsOf {interfaces : List String} (distinct : interfaces.Nodup) :
    (interfaces.flatMap subjectsOf).Nodup := by
  rw [List.nodup_flatMap]
  constructor
  · intro interface _
    simp [subjectsOf]
  · refine distinct.imp ?_
    intro first second different
    simp [Function.onFun, subjectsOf, List.disjoint_left, different]

theorem updates_withdraw (state : ManagedRelay) (access : GroupAccess) (interface : String) :
    let run := state.withdraw access interface
    Updates state.relay (subjectsOf interface) run.visible run.after.relay :=
  .cons (.servers4 _ access (.clear interface)) (.single (.servers6 _ access (.clear interface)))

theorem updates_withdrawAll (state : ManagedRelay) (access : GroupAccess)
    (interfaces : List String) :
    let run := state.withdrawAll access interfaces
    Updates state.relay (interfaces.flatMap subjectsOf) run.visible run.after.relay := by
  induction interfaces generalizing state with
  | nil => exact .nil _
  | cons first rest ih => exact (updates_withdraw state access first).append (ih _)

/-- A row updates both rosters, or the first one alone if this fails. -/
theorem updates_applyRow (state : ManagedRelay) (access : GroupAccess) (planned : PlannedRow) :
    let run := state.applyRow access planned
    ∃ subjects, subjects.Sublist (subjectsOf planned.row.name) ∧
      Updates state.relay subjects run.visible run.after.relay := by
  intro run
  have first := Update.servers4 state.relay access (.assign planned.row.name planned.v4)
  have second := Update.servers6 (state.withServers4
    (state.relay.servers4.assign access planned.row.name planned.v4).roster).relay access
    (.assign planned.row.name planned.v6)
  simp only [run, applyRow]
  split
  · exact ⟨[.servers4 planned.row.name], by simp [subjectsOf], .single first⟩
  · split
    · exact ⟨_, .refl _, .cons first (.single second)⟩
    · exact ⟨_, .refl _, .cons first (.single second)⟩

theorem updates_applyRows (state : ManagedRelay) (access : GroupAccess)
    (rows : List PlannedRow) :
    let run := state.applyRows access rows
    ∃ subjects, subjects.Sublist ((rows.map (·.row.name)).flatMap subjectsOf) ∧
      Updates state.relay subjects run.visible run.after.relay := by
  induction rows generalizing state with
  | nil => exact ⟨[], .refl [], .nil _⟩
  | cons planned rest ih =>
      rcases updates_applyRow state access planned with ⟨subjects, sublist, first⟩
      rw [List.map_cons, List.flatMap_cons]
      cases result : (state.applyRow access planned).result with
      | error fault =>
          rw [applyRows_cons_of_error result]
          exact ⟨subjects, sublist.trans (List.sublist_append_left _ _), first⟩
      | ok =>
          rcases ih (state.applyRow access planned).after with ⟨others, fewer, later⟩
          rw [applyRows_cons_of_ok result]
          exact ⟨subjects ++ others, sublist.append fewer, first.append later⟩

/-- A plan withdraws interfaces and updates others, and takes over its settings last. -/
theorem updates_carryOut (state : ManagedRelay) (access : GroupAccess) (plan : Plan)
    (skipped : List String) :
    let run := state.carryOut access plan skipped
    ∃ subjects : List Subject,
      subjects.Sublist
        ((plan.withdrawn ++ plan.rows.map (·.row.name)).flatMap subjectsOf ++ [.settings]) ∧
      Updates state.relay subjects run.visible run.after.relay := by
  intro run
  have withdrawn := updates_withdrawAll state access plan.withdrawn
  rcases updates_applyRows (state.withdrawAll access plan.withdrawn).after access plan.rows with
    ⟨subjects, sublist, applied⟩
  have both := withdrawn.append applied
  have fewer := (List.Sublist.refl (plan.withdrawn.flatMap subjectsOf)).append sublist
  rw [← List.flatMap_append] at fewer
  simp only [run, carryOut]
  split
  · exact ⟨_, fewer.trans (List.sublist_append_left _ _), both⟩
  · refine ⟨_, fewer.append (.refl [Subject.settings]), both.append ?_⟩
    exact .single (.settings _ plan.settings)

theorem nodup_missing (applied : Table String Row) (rows : List Row) :
    (Plan.missing applied rows).Nodup :=
  ((List.mergeSort_perm _ _).nodup_iff.2 applied.nodup_keys).filter _

/-- No two updates of a rollout are about the same: an interface that is withdrawn has no row,
and the rows have different names. -/
theorem updates_apply (state : ManagedRelay) (access : GroupAccess) (document : Document) :
    let run := state.apply access document
    ∃ subjects : List Subject, subjects.Nodup ∧
      Updates state.relay subjects run.visible run.after.relay := by
  intro run
  simp only [run, ManagedRelay.apply]
  split
  · exact ⟨[], .nil, .nil _⟩
  · rename_i settings read
    split
    · exact ⟨[], .nil, .nil _⟩
    · rename_i plan planned
      rcases Document.plan_eq_ok_iff.1 planned with ⟨plannable, rfl⟩
      rcases updates_carryOut state access _ _ with ⟨subjects, sublist, updates⟩
      refine ⟨subjects, sublist.nodup ?_, updates⟩
      have names : ((Plan.changing settings state.applied document.servedRows).rows.map
          (·.row.name)).Nodup := Plan.nodup_names_changing plannable.distinct
      have disjoint : (Plan.missing state.applied document.servedRows).Disjoint
          ((Plan.changing settings state.applied document.servedRows).rows.map (·.row.name)) := by
        intro interface gone named
        rcases List.mem_map.1 named with ⟨planned, member, rfl⟩
        exact (Plan.mem_missing_iff.1 gone).2 _ (Plan.changed_of_mem_changing member).1 rfl
      rw [List.nodup_append]
      refine ⟨?_, List.nodup_singleton _, ?_⟩
      · exact nodup_flatMap_subjectsOf (List.nodup_append'.2 ⟨nodup_missing .., names, disjoint⟩)
      · intro first member second last
        rcases List.mem_flatMap.1 member with ⟨interface, _, among⟩
        rw [List.mem_singleton] at last
        rintro rfl
        simp [last, subjectsOf] at among

/-! ## Lists that are seen -/

/-- A list that an interface may have: not empty, without repetitions and not too long. -/
def IsProper {Server : Type} (capacity : Nat) (list? : Option (List Server)) : Prop :=
  ∀ servers, list? = some servers →
    servers ≠ [] ∧ servers.Nodup ∧ servers.length ≤ capacity

theorem isProper_of_sound {Server : Type} [DecidableEq Server] {roster : Roster Server}
    {capacity : Nat} (sound : roster.Sound) (limit : roster.capacity = capacity)
    (interface : String) : IsProper capacity (roster.list? interface) := by
  intro servers listed
  exact ⟨sound.ne_nil listed, sound.nodup listed, limit ▸ sound.short listed⟩

/-- While a document is applied, in any state that can be reached and with or without success,
the relay is updated in steps that packets see between, no two of them about the same.  The
servers that packets find for an interface are those from before up to some moment, and those
from afterwards from then on.  So nobody finds a list that is empty, too long or changed in
part. -/
theorem turnsOver_of_apply (reachable : state.Reachable) (access : GroupAccess)
    (document : Document) :
    let run := state.apply access document
    (∃ subjects : List Subject, subjects.Nodup ∧
        Updates state.relay subjects run.visible run.after.relay) ∧
      ∀ interface,
        TurnsOver (fun relay => relay.servers4.list? interface)
          state.relay run.visible run.after.relay ∧
        TurnsOver (fun relay => relay.servers6.list? interface)
          state.relay run.visible run.after.relay ∧
        ∀ relay ∈ run.visible,
          IsProper state.relay.servers4.capacity (relay.servers4.list? interface) ∧
          IsProper state.relay.servers6.capacity (relay.servers6.list? interface) := by
  intro run
  have before := reachable.isSound
  have after := before.apply access document
  rcases updates_apply state access document with ⟨subjects, distinct, updates⟩
  refine ⟨⟨subjects, distinct, updates⟩, fun interface => ?_⟩
  have turnsOver4 := updates.turnsOver (dependsOn_servers4 interface) distinct
  have turnsOver6 := updates.turnsOver (dependsOn_servers6 interface) distinct
  refine ⟨turnsOver4, turnsOver6, fun relay member => ⟨?_, ?_⟩⟩
  · rcases turnsOver4.eq_or_eq member with same | same
    · exact same ▸ isProper_of_sound before.sound4 before.limit4 interface
    · exact same ▸ isProper_of_sound after.sound4 after.limit4 interface
  · rcases turnsOver6.eq_or_eq member with same | same
    · exact same ▸ isProper_of_sound before.sound6 before.limit6 interface
    · exact same ▸ isProper_of_sound after.sound6 after.limit6 interface

/-- One interface is withdrawn, and another one is refused by the group behind its DHCPv6
servers. -/
theorem turnsOver_of_apply_pairDocument :
    let before := (fresh (.start .default ⟨[], .zero⟩) 16 8 false true).afterAll oneRow
    let run := before.apply refusingJoins pairDocument
    before.Reachable ∧
      run.result = .error (.servers (.membership "eth1" "no such device")) ∧
      run.visible.length = 4 ∧
      (before.relay.servers6.list? "eth9").isSome ∧
      run.after.relay.servers6.list? "eth9" = none ∧
      TurnsOver (fun relay => relay.servers6.list? "eth9")
        before.relay run.visible run.after.relay ∧
      run.after.relay.servers4.list? "eth1" = some [.dhcp ⟨10, 0, 0, 6⟩] ∧
      TurnsOver (fun relay => relay.servers4.list? "eth1")
        before.relay run.visible run.after.relay := by
  intro before run
  have reachable : before.Reachable := (reachable_fresh ..).afterAll oneRow
  rcases turnsOver_of_apply reachable refusingJoins pairDocument with ⟨_, turnsOver⟩
  refine ⟨reachable, ?_, ?_, ?_, ?_, (turnsOver "eth9").2.1, ?_, (turnsOver "eth1").1⟩
  · decide +kernel
  · decide +kernel
  · decide +kernel
  · decide +kernel
  · decide +kernel

end ManagedRelay

end DhcpRelay
