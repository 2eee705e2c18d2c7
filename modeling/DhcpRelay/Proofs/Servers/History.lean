import DhcpRelay.Proofs.Servers.Assignment
import Mathlib.Data.String.Basic

/-!
# Histories of a roster

A history is a series of calls, each with what the group answers meanwhile.  After
any history that starts with an empty roster, lists and records agree.
-/

namespace DhcpRelay.Roster

variable {Server : Type}

/-- A call that changes a roster. -/
inductive Operation (Server : Type) where
  | add (interface : String) (server : Server)
  | remove (interface : String) (server : Server)
  | clear (interface : String)
  | assign (interface : String) (desired : List Server)

variable {roster : Roster Server}

/-! ## Reports -/

theorem mem_interfaces {name : String} :
    name ∈ roster.interfaces ↔ (roster.list? name).isSome := by
  rw [interfaces, List.mem_mergeSort]
  exact Table.mem_keys_iff

theorem pairwise_interfaces (roster : Roster Server) : roster.interfaces.Pairwise (· < ·) := by
  have sorted : roster.interfaces.Pairwise fun left right => decide (left ≤ right) = true :=
    List.pairwise_mergeSort (fun _ _ _ => by simpa using le_trans)
      (fun left right => by simpa using le_total left right) _
  have distinct : roster.interfaces.Nodup :=
    (List.mergeSort_perm _ _).nodup_iff.2 roster.lists.nodup_keys
  refine (sorted.and distinct).imp ?_
  intro left right before
  exact lt_of_le_of_ne (of_decide_eq_true before.1) before.2

variable [DecidableEq Server]

theorem Consistent.count_le_size (consistent : roster.Consistent) {server : Server} {count : Nat}
    (recorded : roster.count? server = some count) :
    count = roster.listings server ∧ 0 < count ∧ count ≤ roster.lists.size := by
  have counted := consistent.counted server
  have positive := consistent.positive server
  rw [recorded] at counted positive
  have equal : count = roster.listings server := counted
  refine ⟨equal, Nat.pos_of_ne_zero ?_, ?_⟩
  · intro equal
    subst equal
    exact positive rfl
  · rw [equal]
    exact Table.tally_le_size _ _

theorem Consistent.isSome_count?_iff (consistent : roster.Consistent) (server : Server) :
    (roster.count? server).isSome ↔ ∃ interface, server ∈ roster.serversOf interface := by
  rw [consistent.count?_eq]
  constructor
  · intro recorded
    have some : 0 < roster.listings server := by
      by_contra none
      simp [Nat.eq_zero_of_not_pos none] at recorded
    rcases Table.tally_pos_iff.1 some with ⟨interface, servers, listed, member⟩
    refine ⟨interface, ?_⟩
    rw [serversOf_of_list? listed]
    exact of_decide_eq_true member
  · intro listed
    rcases listed with ⟨interface, member⟩
    have some : 0 < roster.listings server :=
      Table.tally_pos_iff.2 ⟨interface, _, list?_of_mem member, decide_eq_true member⟩
    rw [if_neg (Nat.ne_of_gt some)]
    rfl

/-- The report of all interfaces gives their lists with the counts of the servers. -/
theorem Consistent.mem_overview_iff (consistent : roster.Consistent)
    (entry : Overview Server) :
    entry ∈ roster.overview none ↔ ∃ servers, roster.list? entry.name = some servers ∧
      entry.servers = servers.map fun server => ⟨server, roster.listings server⟩ := by
  have counts : ∀ server, (roster.count? server).getD 0 = roster.listings server :=
    consistent.counted
  rcases entry with ⟨name, entries⟩
  simp only [overview, Option.all_none, List.filter_true, List.mem_map, mem_interfaces,
    Overview.mk.injEq, counts]
  constructor
  · intro reported
    rcases reported with ⟨found, present, rfl, rfl⟩
    rcases Option.isSome_iff_exists.1 present with ⟨servers, listed⟩
    exact ⟨servers, listed, by rw [serversOf_of_list? listed]⟩
  · intro present
    rcases present with ⟨servers, listed, rfl⟩
    exact ⟨name, by rw [listed]; rfl, rfl, by rw [serversOf_of_list? listed]⟩

theorem pairwise_overview (roster : Roster Server) :
    (roster.overview none).Pairwise fun left right => left.name < right.name := by
  simp only [overview, Option.all_none, List.filter_true]
  exact List.pairwise_map.2 (pairwise_interfaces roster)

/-! ## Calls -/

variable [ToString Server]

/-- The roster after a call. -/
def perform (roster : Roster Server) (access : GroupAccess) : Operation Server → Roster Server
  | .add interface server => (roster.add access interface server).roster
  | .remove interface server => (roster.remove access interface server).roster
  | .clear interface => (roster.clear access interface).roster
  | .assign interface desired => (roster.assign access interface desired).roster

/-- The interface that a call is about. -/
def Operation.interface : Operation Server → String
  | .add interface _ => interface
  | .remove interface _ => interface
  | .clear interface => interface
  | .assign interface _ => interface

/-- What a call answers. -/
inductive Answer (Server : Type) where
  | added (result : Except RosterFault Addition)
  | removed (result : Except RosterFault Unit)
  | cleared (servers : List Server)
  | assigned (result : Except RosterFault (Difference Server))
  deriving DecidableEq

/-- The run with its result as an answer. -/
def Run.answer {Result : Type} (run : Run Server Result) (answer : Result → Answer Server) :
    Run Server (Answer Server) :=
  ⟨answer run.result, run.roster, run.events⟩

/-- A call with its answer, the roster after it and the events on the way. -/
def call (roster : Roster Server) (access : GroupAccess) :
    Operation Server → Run Server (Answer Server)
  | .add interface server => (roster.add access interface server).answer .added
  | .remove interface server => (roster.remove access interface server).answer .removed
  | .clear interface => (roster.clear access interface).answer .cleared
  | .assign interface desired => (roster.assign access interface desired).answer .assigned

@[simp] theorem roster_call (roster : Roster Server) (access : GroupAccess)
    (operation : Operation Server) :
    (roster.call access operation).roster = roster.perform access operation := by
  cases operation <;> rfl

/-- The roster after a history. -/
def after (roster : Roster Server) : List (GroupAccess × Operation Server) → Roster Server
  | [] => roster
  | (access, operation) :: rest => (roster.perform access operation).after rest

theorem Sound.perform (sound : roster.Sound) (access : GroupAccess)
    (operation : Operation Server) : (roster.perform access operation).Sound := by
  cases operation with
  | add interface server => exact sound.add access interface server
  | remove interface server => exact sound.remove access interface server
  | clear interface => exact (clear_spec sound access interface).2.1
  | assign interface desired => exact sound.assign access interface desired

theorem Sound.after (sound : roster.Sound) (calls : List (GroupAccess × Operation Server)) :
    (roster.after calls).Sound := by
  induction calls generalizing roster with
  | nil => exact sound
  | cons call rest ih => exact ih (sound.perform call.1 call.2)

/-- A call leaves alone what is not about its interface. -/
theorem changes_perform (roster : Roster Server) (access : GroupAccess)
    (operation : Operation Server) :
    Changes operation.interface roster (roster.perform access operation) := by
  cases operation with
  | add => exact changes_add ..
  | remove => exact changes_remove ..
  | clear => exact changes_removeEach ..
  | assign => exact changes_assign ..

theorem capacity_perform (roster : Roster Server) (access : GroupAccess)
    (operation : Operation Server) :
    (roster.perform access operation).capacity = roster.capacity :=
  (changes_perform roster access operation).sameElsewhere.capacity

theorem capacity_after (roster : Roster Server) (calls : List (GroupAccess × Operation Server)) :
    (roster.after calls).capacity = roster.capacity := by
  induction calls generalizing roster with
  | nil => rfl
  | cons call rest ih => exact (ih _).trans (capacity_perform roster call.1 call.2)

/-- After any history lists and records agree.  This holds for the rosters that
`assign` passes through as well, apart from lists that are empty meanwhile. -/
theorem lists_agree_with_records_after (capacity : Nat) (multicast : Bool)
    (calls : List (GroupAccess × Operation Server)) :
    let roster := (empty capacity multicast : Roster Server).after calls
    (∀ interface servers, roster.list? interface = some servers →
        servers ≠ [] ∧ servers.Nodup ∧ servers.length ≤ capacity) ∧
      (∀ server, (roster.count? server).isSome ↔
        ∃ interface, server ∈ roster.serversOf interface) ∧
      (∀ server count, roster.count? server = some count →
        count = roster.listings server ∧ 0 < count ∧ count ≤ roster.lists.size) ∧
      ((roster.overview none).Pairwise fun left right => left.name < right.name) ∧
      (∀ entry, entry ∈ roster.overview none ↔ ∃ servers,
        roster.list? entry.name = some servers ∧
          entry.servers = servers.map fun server => ⟨server, roster.listings server⟩) ∧
      ∀ access interface removed added,
        let created := (roster.ensure access interface).roster
        let unlinked := (created.unlinkAll interface removed).roster
        let linked := (unlinked.addAll access interface added).roster
        ∀ server count, linked.count? server = some count →
          count = linked.listings server ∧ 0 < count ∧ count ≤ linked.lists.size := by
  intro roster
  have sound : roster.Sound := (sound_empty capacity multicast).after calls
  have limit : roster.capacity = capacity := capacity_after _ calls
  refine ⟨?_, sound.isSome_count?_iff, fun _ _ => sound.count_le_size, pairwise_overview roster,
    sound.mem_overview_iff, ?_⟩
  · intro interface servers listed
    refine ⟨?_, sound.nodup listed, limit ▸ sound.short listed⟩
    intro equal
    subst equal
    exact sound.nonempty interface listed
  · intro access interface removed added created unlinked linked server count recorded
    have passed : Changes interface roster linked :=
      ((changes_ensure roster access interface).trans (changes_unlinkAll _ interface removed)).trans
        (changes_addAll _ access interface added)
    exact (passed.consistent sound.toConsistent).count_le_size recorded

end DhcpRelay.Roster
