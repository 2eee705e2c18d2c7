import DhcpRelay.Proofs.Table
import DhcpRelay.Servers.Roster
import Mathlib.Data.List.Perm.Basic
import Mathlib.Logic.Relation

/-!
# Changes of a roster

Every operation on a roster is a series of four kinds of changes, all of them at
the interface the operation is about.  What a roster has to fulfil is checked
for each kind once and holds for operations in any order.
-/

namespace DhcpRelay.Roster

variable {Server : Type} [DecidableEq Server]

/-! ## Taking a server off a list -/

theorem replace_perm {servers : List Server} {server last : Server} (member : server ∈ servers) :
    (servers.replace server last).Perm (last :: servers.erase server) := by
  induction servers with
  | nil => simp at member
  | cons first rest ih =>
      by_cases same : first = server
      · simp [same]
      · have behind : server ∈ rest := by
          simpa [Ne.symm same] using member
        have swapped : (first :: rest.replace server last).Perm
            (first :: last :: rest.erase server) := (ih behind).cons first
        have other : (server == first) = false := beq_false_of_ne (Ne.symm same)
        simpa [List.replace_cons, same, other] using swapped.trans (.swap last first _)

/-- The order of the list aside, the server is gone and the others are left. -/
theorem swapRemove_perm {servers : List Server} {server : Server} (member : server ∈ servers) :
    (swapRemove server servers).Perm (servers.erase server) := by
  rcases List.eq_nil_or_concat servers with rfl | ⟨front, last, rfl⟩
  · simp at member
  · rw [List.concat_eq_append] at member ⊢
    simp only [swapRemove, List.getLast?_append, List.getLast?_singleton, Option.some_or,
      List.dropLast_concat]
    by_cases same : last = server
    · subst same
      rw [if_pos rfl]
      have moved : (front ++ [last]).Perm (last :: front) := List.perm_append_singleton last front
      exact (moved.symm.trans (List.perm_cons_erase member)).cons_inv
    · rw [if_neg same]
      have inFront : server ∈ front := by
        simpa [Ne.symm same] using member
      rw [List.erase_append_left _ inFront]
      exact (replace_perm inFront).trans (List.perm_append_singleton last _).symm

theorem nodup_swapRemove {servers : List Server} {server : Server} (member : server ∈ servers)
    (nodup : servers.Nodup) : (swapRemove server servers).Nodup :=
  (swapRemove_perm member).nodup_iff.2 (nodup.erase server)

theorem mem_swapRemove {servers : List Server} {server other : Server}
    (member : server ∈ servers) (nodup : servers.Nodup) :
    other ∈ swapRemove server servers ↔ other ≠ server ∧ other ∈ servers :=
  (swapRemove_perm member).mem_iff.trans nodup.mem_erase_iff

theorem length_swapRemove {servers : List Server} {server : Server} (member : server ∈ servers) :
    (swapRemove server servers).length = servers.length - 1 := by
  rw [(swapRemove_perm member).length_eq, List.length_erase_of_mem member]

/-! ## The four changes -/

/-- The roster with a server taken off the list of an interface and its record. -/
def unlinked (roster : Roster Server) (interface : String) (server : Server) : Roster Server :=
  dropRecord
    { roster with
      lists := roster.lists.put interface (swapRemove server (roster.serversOf interface)) }
    server

/-- One change of a roster at an interface. -/
inductive Change (interface : String) : Roster Server → Roster Server → Prop where
  | create {roster : Roster Server} :
      roster.list? interface = none → roster.capacity ≠ 0 →
      Change interface roster { roster with lists := roster.lists.put interface [] }
  | link {roster : Roster Server} {servers : List Server} {server : Server} :
      roster.list? interface = some servers → server ∉ servers →
      servers.length < roster.capacity →
      Change interface roster (roster.link interface server)
  | unlink {roster : Roster Server} {servers : List Server} {server : Server} :
      roster.list? interface = some servers → server ∈ servers →
      Change interface roster (roster.unlinked interface server)
  | delete {roster : Roster Server} :
      roster.list? interface = some [] →
      Change interface roster { roster with lists := roster.lists.erase interface }

/-- Some changes of a roster, all at one interface. -/
def Changes (interface : String) : Roster Server → Roster Server → Prop :=
  Relation.ReflTransGen (Change interface)

namespace Changes

variable {interface : String} {first second third : Roster Server}

theorem refl (roster : Roster Server) : Changes interface roster roster :=
  Relation.ReflTransGen.refl

theorem trans (before : Changes interface first second) (behind : Changes interface second third) :
    Changes interface first third :=
  Relation.ReflTransGen.trans before behind

theorem single (change : Change interface first second) : Changes interface first second :=
  Relation.ReflTransGen.single change

end Changes

/-! ## What is left alone -/

/-- Two rosters differ in nothing but the list of one interface and the records. -/
structure SameElsewhere (interface : String) (before after : Roster Server) : Prop where
  capacity : after.capacity = before.capacity
  multicast : after.multicast = before.multicast
  others : ∀ {other}, other ≠ interface → after.list? other = before.list? other

variable {interface : String} {roster before after : Roster Server}

@[simp] theorem list?_dropRecord (server : Server) (other : String) :
    (roster.dropRecord server).list? other = roster.list? other := by
  rw [dropRecord]
  split <;> rfl

@[simp] theorem capacity_dropRecord (server : Server) :
    (roster.dropRecord server).capacity = roster.capacity := by
  rw [dropRecord]
  split <;> rfl

@[simp] theorem multicast_dropRecord (server : Server) :
    (roster.dropRecord server).multicast = roster.multicast := by
  rw [dropRecord]
  split <;> rfl

@[simp] theorem lists_dropRecord (server : Server) :
    (roster.dropRecord server).lists = roster.lists := by
  rw [dropRecord]
  split <;> rfl

theorem link_eq {servers : List Server} (listed : roster.list? interface = some servers)
    (server : Server) :
    roster.link interface server =
      { roster.addRecord server with
        lists := roster.lists.put interface (servers ++ [server]) } := by
  have found : (roster.addRecord server).lists.get? interface = some servers := listed
  simp only [link, found]
  rfl

theorem Change.sameElsewhere (change : Change interface before after) :
    SameElsewhere interface before after := by
  cases change with
  | create absent roomy =>
      exact ⟨rfl, rfl, fun different => Table.get?_put_of_ne _ _ different⟩
  | link listed fresh short =>
      rw [link_eq listed]
      exact ⟨rfl, rfl, fun different => Table.get?_put_of_ne _ _ different⟩
  | unlink listed member =>
      refine ⟨capacity_dropRecord _, multicast_dropRecord _, fun different => ?_⟩
      rw [unlinked, list?_dropRecord]
      exact Table.get?_put_of_ne _ _ different
  | delete empty =>
      exact ⟨rfl, rfl, fun different => Table.get?_erase_of_ne _ different⟩

omit [DecidableEq Server] in
theorem SameElsewhere.trans {between : Roster Server}
    (first : SameElsewhere interface before between)
    (second : SameElsewhere interface between after) : SameElsewhere interface before after where
  capacity := second.capacity.trans first.capacity
  multicast := second.multicast.trans first.multicast
  others different := (second.others different).trans (first.others different)

theorem Changes.sameElsewhere (changes : Changes interface before after) :
    SameElsewhere interface before after := by
  induction changes with
  | refl => exact ⟨rfl, rfl, fun _ => rfl⟩
  | tail earlier change ih => exact ih.trans change.sameElsewhere

end DhcpRelay.Roster
