import DhcpRelay.Proofs.Servers.Consistency

/-!
# Operations on a roster

For each operation: the changes it consists of, when it succeeds, and the list
of its interface afterwards.
-/

namespace DhcpRelay.Roster

variable {Server : Type} {roster before after : Roster Server} {interface : String}
  {server : Server} {servers : List Server}

/-! ## Lists of interfaces -/

theorem serversOf_of_list? (listed : roster.list? interface = some servers) :
    roster.serversOf interface = servers := by
  rw [serversOf, listed]
  rfl

theorem serversOf_of_list?_none (absent : roster.list? interface = none) :
    roster.serversOf interface = [] := by
  rw [serversOf, absent]
  rfl

/-- An interface that lists a server has a list. -/
theorem list?_of_mem (member : server ∈ roster.serversOf interface) :
    roster.list? interface = some (roster.serversOf interface) := by
  cases listed : roster.list? interface with
  | none =>
      rw [serversOf_of_list?_none listed] at member
      exact absurd member List.not_mem_nil
  | some servers => rw [serversOf_of_list? listed]

theorem SameElsewhere.serversOf (frame : SameElsewhere interface before after) {other : String}
    (different : other ≠ interface) : after.serversOf other = before.serversOf other := by
  rw [Roster.serversOf, frame.others different]
  rfl

/-! ## Groups -/

/-- The reason that the group has to refuse a roster's interface. -/
def refusal (roster : Roster Server) (access : GroupAccess) (interface : String) :
    Option String :=
  if roster.multicast then access.refusesJoin interface else none

theorem create_of_full (access : GroupAccess) (interface : String)
    (full : roster.capacity = 0) :
    roster.create access interface =
      ⟨.error (.capacityExceeded interface 0), roster, []⟩ := by
  rw [create, if_pos full]

theorem create_of_refused {access : GroupAccess} {reason : String}
    (roomy : roster.capacity ≠ 0) (refused : roster.refusal access interface = some reason) :
    roster.create access interface =
      ⟨.error (.membership interface reason), roster, [.joinRefused interface reason]⟩ := by
  rw [refusal] at refused
  rw [create, if_neg roomy]
  split at refused
  · rename_i multicast
    rw [if_pos multicast, refused]
  · cases refused

theorem create_of_granted {access : GroupAccess} (roomy : roster.capacity ≠ 0)
    (granted : roster.refusal access interface = none) :
    (roster.create access interface).result = .ok () ∧
      (roster.create access interface).roster =
        { roster with lists := roster.lists.put interface [] } := by
  rw [refusal] at granted
  rw [create, if_neg roomy]
  split
  · rename_i multicast
    rw [if_pos multicast] at granted
    simp [granted]
  · exact ⟨rfl, rfl⟩

/-- An interface is created, or it is not and the roster stays the same. -/
theorem create_cases (roster : Roster Server) (access : GroupAccess) (interface : String) :
    (∃ fault, (roster.create access interface).result = .error fault ∧
        (roster.create access interface).roster = roster) ∨
      (roster.capacity ≠ 0 ∧ (roster.create access interface).result = .ok () ∧
        (roster.create access interface).roster =
          { roster with lists := roster.lists.put interface [] }) := by
  by_cases full : roster.capacity = 0
  · rw [create_of_full access interface full]
    exact .inl ⟨_, rfl, rfl⟩
  · cases refused : roster.refusal access interface with
    | some reason =>
        rw [create_of_refused full refused]
        exact .inl ⟨_, rfl, rfl⟩
    | none => exact .inr ⟨full, create_of_granted full refused⟩

variable [DecidableEq Server]

theorem Consistent.nodup_serversOf (consistent : roster.Consistent) (interface : String) :
    (roster.serversOf interface).Nodup := by
  cases listed : roster.list? interface with
  | none => simp [serversOf_of_list?_none listed]
  | some servers =>
      rw [serversOf_of_list? listed]
      exact consistent.nodup listed

/-- Between operations an interface has a list exactly if it has servers. -/
theorem Sound.list?_eq (sound : roster.Sound) (interface : String) :
    roster.list? interface =
      if roster.serversOf interface = [] then none else some (roster.serversOf interface) := by
  cases listed : roster.list? interface with
  | none => rw [if_pos (serversOf_of_list?_none listed)]
  | some servers =>
      rw [serversOf_of_list? listed, if_neg (sound.ne_nil listed)]

/-! ## Adding a server -/

theorem changes_create (access : GroupAccess) (absent : roster.list? interface = none) :
    Changes interface roster (roster.create access interface).roster := by
  rcases create_cases roster access interface with ⟨_, _, same⟩ | ⟨roomy, _, created⟩
  · rw [same]
    exact .refl roster
  · rw [created]
    exact .single (.create absent roomy)

theorem list?_link (listed : roster.list? interface = some servers) (server : Server) :
    (roster.link interface server).list? interface = some (servers ++ [server]) := by
  rw [link_eq listed]
  exact Table.get?_put_self _ _ _

/-- A server that is listed already is not added again. -/
theorem add_of_mem (access : GroupAccess) (member : server ∈ roster.serversOf interface) :
    roster.add access interface server = ⟨.ok .alreadyPresent, roster, []⟩ := by
  have listed : roster.lists.get? interface = some (roster.serversOf interface) :=
    list?_of_mem member
  simp only [add, listed, if_pos member]

/-- A new server goes to the end of a list that has room. -/
theorem add_of_not_mem (access : GroupAccess) (listed : roster.list? interface = some servers)
    (fresh : server ∉ servers) (short : servers.length < roster.capacity) :
    roster.add access interface server = ⟨.ok .added, roster.link interface server, []⟩ := by
  have found : roster.lists.get? interface = some servers := listed
  simp only [add, found, if_neg fresh, if_neg (Nat.not_le.2 short)]

/-- Adding fails and changes nothing, or finds the server listed, or puts it at the
end of the list. -/
theorem add_cases (roster : Roster Server) (access : GroupAccess) (interface : String)
    (server : Server) :
    (∃ fault, (roster.add access interface server).result = .error fault ∧
        (roster.add access interface server).roster = roster) ∨
      (server ∈ roster.serversOf interface ∧
        roster.add access interface server = ⟨.ok .alreadyPresent, roster, []⟩) ∨
      ((roster.add access interface server).result = .ok .added ∧
        Changes interface roster (roster.add access interface server).roster ∧
        (roster.add access interface server).roster.list? interface =
          some (roster.serversOf interface ++ [server])) := by
  cases listed : roster.list? interface with
  | some servers =>
      rw [serversOf_of_list? listed]
      by_cases member : server ∈ servers
      · exact .inr (.inl ⟨member, add_of_mem access (by rwa [serversOf_of_list? listed])⟩)
      · by_cases short : servers.length < roster.capacity
        · rw [add_of_not_mem access listed member short]
          exact .inr (.inr ⟨rfl, .single (.link listed member short), list?_link listed server⟩)
        · have found : roster.lists.get? interface = some servers := listed
          simp only [add, found, if_neg member, if_pos (Nat.not_lt.1 short)]
          exact .inl ⟨_, rfl, trivial⟩
  | none =>
      have created := changes_create access listed
      have absent : roster.lists.get? interface = none := listed
      rw [serversOf_of_list?_none listed]
      simp only [add, absent]
      rcases create_cases roster access interface with ⟨fault, failed, same⟩ | ⟨roomy, done, same⟩
      · rw [failed]
        exact .inl ⟨fault, rfl, same⟩
      · rw [same] at created
        rw [done, same]
        have empty : list? { roster with lists := roster.lists.put interface [] } interface =
            some [] := Table.get?_put_self _ _ _
        have linked := Change.link empty (List.not_mem_nil (a := server)) (Nat.pos_of_ne_zero roomy)
        exact .inr (.inr ⟨rfl, created.trans (.single linked), list?_link empty server⟩)

theorem changes_add (roster : Roster Server) (access : GroupAccess) (interface : String)
    (server : Server) :
    Changes interface roster (roster.add access interface server).roster := by
  rcases add_cases roster access interface server with
    ⟨_, _, same⟩ | ⟨_, same⟩ | ⟨_, changes, _⟩
  · rw [same]
    exact .refl roster
  · rw [same]
    exact .refl roster
  · exact changes

theorem Sound.add (sound : roster.Sound) (access : GroupAccess) (interface : String)
    (server : Server) : (roster.add access interface server).roster.Sound := by
  rcases add_cases roster access interface server with
    ⟨_, _, same⟩ | ⟨_, same⟩ | ⟨_, changes, list⟩
  · rwa [same]
  · rwa [same]
  · refine changes.sound sound ?_
    rw [list]
    simp

/-! ## Removing a server -/

variable [ToString Server]

theorem unlink_of_mem (member : server ∈ roster.serversOf interface) :
    roster.unlink interface server = .ok (roster.unlinked interface server) := by
  have listed : roster.lists.get? interface = some (roster.serversOf interface) :=
    list?_of_mem member
  simp only [unlink, listed, if_pos member]
  rfl

theorem unlink_of_not_mem (absent : server ∉ roster.serversOf interface) :
    roster.unlink interface server = .error (.notFound interface (toString server)) := by
  cases listed : roster.list? interface with
  | none =>
      have found : roster.lists.get? interface = none := listed
      simp only [unlink, found]
  | some servers =>
      have found : roster.lists.get? interface = some servers := listed
      rw [serversOf_of_list? listed] at absent
      simp only [unlink, found, if_neg absent]

omit [ToString Server] in
theorem list?_unlinked (listed : roster.list? interface = some servers) (server : Server) :
    (roster.unlinked interface server).list? interface = some (swapRemove server servers) := by
  rw [unlinked, list?_dropRecord, serversOf_of_list? listed]
  exact Table.get?_put_self _ _ _

theorem remove_of_not_mem (access : GroupAccess) (absent : server ∉ roster.serversOf interface) :
    roster.remove access interface server =
      ⟨.error (.notFound interface (toString server)), roster, []⟩ := by
  rw [remove, unlink_of_not_mem absent]

/-- A removal takes the server off the list, and the list away if it is empty then. -/
theorem remove_of_mem (access : GroupAccess) (member : server ∈ roster.serversOf interface) :
    (roster.remove access interface server).result = .ok () ∧
      Changes interface roster (roster.remove access interface server).roster ∧
      (roster.remove access interface server).roster.list? interface =
        if swapRemove server (roster.serversOf interface) = [] then none
        else some (swapRemove server (roster.serversOf interface)) := by
  have listed := list?_of_mem member
  have left := list?_unlinked listed server
  have unlinks : Changes interface roster (roster.unlinked interface server) :=
    .single (.unlink listed member)
  rw [remove, unlink_of_mem member]
  by_cases last : swapRemove server (roster.serversOf interface) = []
  · have empty : (roster.unlinked interface server).lists.get? interface = some [] :=
      last ▸ left
    simp only [if_pos empty, if_pos last]
    exact ⟨trivial, unlinks.trans (.single (.delete empty)), Table.get?_erase_self _ _⟩
  · have some : (roster.unlinked interface server).lists.get? interface ≠ some [] := by
      intro empty
      exact last (Option.some.inj (left.symm.trans empty))
    simp only [if_neg some, if_neg last]
    exact ⟨trivial, unlinks, left⟩

theorem changes_remove (roster : Roster Server) (access : GroupAccess) (interface : String)
    (server : Server) :
    Changes interface roster (roster.remove access interface server).roster := by
  by_cases member : server ∈ roster.serversOf interface
  · exact (remove_of_mem access member).2.1
  · rw [remove_of_not_mem access member]
    exact .refl roster

theorem Sound.remove (sound : roster.Sound) (access : GroupAccess) (interface : String)
    (server : Server) : (roster.remove access interface server).roster.Sound := by
  by_cases member : server ∈ roster.serversOf interface
  · rcases remove_of_mem access member with ⟨_, changes, listed⟩
    refine changes.sound sound ?_
    rw [listed]
    split
    · exact nofun
    · simpa using ‹_›
  · rwa [remove_of_not_mem access member]

theorem serversOf_remove (access : GroupAccess) (member : server ∈ roster.serversOf interface) :
    (roster.remove access interface server).roster.serversOf interface =
      swapRemove server (roster.serversOf interface) := by
  rw [serversOf, (remove_of_mem access member).2.2]
  split
  · rename_i last
    exact last.symm
  · rfl

/-! ## Removing several servers -/

/-- A list with servers taken off one after the other. -/
def takeOff (servers : List Server) : List Server → List Server
  | [] => servers
  | server :: rest => takeOff (swapRemove server servers) rest

omit [ToString Server] in
/-- Of servers without repetition, those behind the first one are still listed when
it is gone. -/
theorem mem_swapRemove_of_mem_tail {rest : List Server} (nodup : servers.Nodup)
    (distinct : (server :: rest).Nodup) (subset : ∀ other ∈ server :: rest, other ∈ servers) :
    ∀ other ∈ rest, other ∈ swapRemove server servers := by
  intro other among
  rw [mem_swapRemove (subset server List.mem_cons_self) nodup]
  refine ⟨?_, subset other (List.mem_cons_of_mem server among)⟩
  intro equal
  subst equal
  exact (List.nodup_cons.1 distinct).1 among

/-- Of servers that are listed, those behind the first one are still listed when it was
removed. -/
theorem Consistent.mem_remove_of_mem_tail {rest : List Server} (consistent : roster.Consistent)
    (access : GroupAccess) (distinct : (server :: rest).Nodup)
    (subset : ∀ other ∈ server :: rest, other ∈ roster.serversOf interface) :
    ∀ other ∈ rest, other ∈ (roster.remove access interface server).roster.serversOf interface := by
  rw [serversOf_remove access (subset server List.mem_cons_self)]
  exact mem_swapRemove_of_mem_tail (consistent.nodup_serversOf interface) distinct subset

omit [ToString Server] in
/-- Servers that are listed can be taken off in any order. -/
theorem takeOff_perm {removed : List Server} (nodup : servers.Nodup) (distinct : removed.Nodup)
    (subset : ∀ server ∈ removed, server ∈ servers) :
    (takeOff servers removed).Perm (servers.diff removed) := by
  induction removed generalizing servers with
  | nil => exact .refl servers
  | cons server rest ih =>
      have first : server ∈ servers := subset server List.mem_cons_self
      have left := mem_swapRemove_of_mem_tail nodup distinct subset
      rw [takeOff, List.diff_cons]
      exact (ih (nodup_swapRemove first nodup) distinct.of_cons left).trans
        ((swapRemove_perm first).diff_right rest)

omit [ToString Server] in
theorem nodup_takeOff {removed : List Server} (nodup : servers.Nodup) (distinct : removed.Nodup)
    (subset : ∀ server ∈ removed, server ∈ servers) : (takeOff servers removed).Nodup :=
  (takeOff_perm nodup distinct subset).nodup_iff.2
    (nodup.sublist (List.diff_sublist servers removed))

omit [ToString Server] in
theorem mem_takeOff {removed : List Server} (nodup : servers.Nodup) (distinct : removed.Nodup)
    (subset : ∀ server ∈ removed, server ∈ servers) :
    server ∈ takeOff servers removed ↔ server ∈ servers ∧ server ∉ removed :=
  (takeOff_perm nodup distinct subset).mem_iff.trans nodup.mem_sdiff_iff

theorem changes_unlinkAll (roster : Roster Server) (interface : String)
    (servers : List Server) :
    Changes interface roster (roster.unlinkAll interface servers).roster := by
  induction servers generalizing roster with
  | nil => exact .refl roster
  | cons server rest ih =>
      by_cases member : server ∈ roster.serversOf interface
      · rw [unlinkAll, unlink_of_mem member]
        exact Changes.trans (.single (.unlink (list?_of_mem member) member)) (ih _)
      · rw [unlinkAll, unlink_of_not_mem member]
        exact .refl roster

/-- Servers that are listed can be unlinked; the list stays even if it is empty then. -/
theorem unlinkAll_of_mem {removed : List Server} (nodup : servers.Nodup)
    (distinct : removed.Nodup) (listed : roster.list? interface = some servers)
    (subset : ∀ server ∈ removed, server ∈ servers) :
    (roster.unlinkAll interface removed).result = .ok () ∧
      (roster.unlinkAll interface removed).roster.list? interface =
        some (takeOff servers removed) := by
  induction removed generalizing roster servers with
  | nil => exact ⟨rfl, listed⟩
  | cons server rest ih =>
      have first : server ∈ servers := subset server List.mem_cons_self
      have member : server ∈ roster.serversOf interface := by
        rwa [serversOf_of_list? listed]
      have left := mem_swapRemove_of_mem_tail nodup distinct subset
      rw [unlinkAll, unlink_of_mem member]
      exact ih (nodup_swapRemove first nodup) distinct.of_cons (list?_unlinked listed server) left

theorem changes_removeAll (roster : Roster Server) (access : GroupAccess) (interface : String)
    (servers : List Server) :
    Changes interface roster (roster.removeAll access interface servers).roster := by
  induction servers generalizing roster with
  | nil => exact .refl roster
  | cons server rest ih =>
      have first := changes_remove roster access interface server
      rw [removeAll]
      dsimp only
      split
      · exact first
      · exact first.trans (ih _)

/-- Removing stops nowhere as long as each server is listed. -/
theorem removeAll_of_mem {removed : List Server} (sound : roster.Sound) (access : GroupAccess)
    (distinct : removed.Nodup) (subset : ∀ server ∈ removed, server ∈ roster.serversOf interface) :
    (roster.removeAll access interface removed).result = .ok () ∧
      (roster.removeAll access interface removed).roster.Sound ∧
      (roster.removeAll access interface removed).roster.serversOf interface =
        takeOff (roster.serversOf interface) removed := by
  induction removed generalizing roster with
  | nil => exact ⟨rfl, sound, rfl⟩
  | cons server rest ih =>
      have member := subset server List.mem_cons_self
      have left := sound.mem_remove_of_mem_tail access distinct subset
      have later := ih (sound.remove access interface server) distinct.of_cons left
      rw [removeAll]
      dsimp only
      rw [(remove_of_mem access member).1, takeOff, ← serversOf_remove access member]
      exact later

/-- Removing each server that can be removed is removing all of them, as long as
each is listed. -/
theorem removeEach_of_mem {removed : List Server} (sound : roster.Sound) (access : GroupAccess)
    (distinct : removed.Nodup) (subset : ∀ server ∈ removed, server ∈ roster.serversOf interface) :
    (roster.removeEach access interface removed).result = removed ∧
      (roster.removeEach access interface removed).roster =
        (roster.removeAll access interface removed).roster ∧
      (roster.removeEach access interface removed).events =
        (roster.removeAll access interface removed).events := by
  induction removed generalizing roster with
  | nil => exact ⟨rfl, rfl, rfl⟩
  | cons server rest ih =>
      have member := subset server List.mem_cons_self
      have left := sound.mem_remove_of_mem_tail access distinct subset
      rcases ih (sound.remove access interface server) distinct.of_cons left with
        ⟨result, same, events⟩
      rw [removeEach, removeAll, (remove_of_mem access member).1, result, same, events]
      exact ⟨rfl, rfl, rfl⟩

theorem changes_removeEach (roster : Roster Server) (access : GroupAccess) (interface : String)
    (servers : List Server) :
    Changes interface roster (roster.removeEach access interface servers).roster := by
  induction servers generalizing roster with
  | nil => exact .refl roster
  | cons server rest ih =>
      have first := changes_remove roster access interface server
      rw [removeEach]
      split
      · exact first.trans (ih _)
      · exact first.trans (ih _)

omit [ToString Server] in
theorem takeOff_self (nodup : servers.Nodup) : takeOff servers servers = [] := by
  rw [List.eq_nil_iff_forall_not_mem]
  intro server member
  rw [mem_takeOff nodup nodup fun _ listed => listed] at member
  exact member.2 member.1

/-- Clearing an interface gives its servers and leaves it without a list. -/
theorem clear_spec (sound : roster.Sound) (access : GroupAccess) (interface : String) :
    (roster.clear access interface).result = roster.serversOf interface ∧
      (roster.clear access interface).roster.Sound ∧
      (roster.clear access interface).roster.serversOf interface = [] := by
  have nodup := sound.nodup_serversOf interface
  rcases removeEach_of_mem sound access nodup fun _ member => member with ⟨result, same, _⟩
  rcases removeAll_of_mem sound access nodup fun _ member => member with ⟨_, left, list⟩
  rw [takeOff_self nodup] at list
  rw [clear, same]
  exact ⟨result, left, list⟩

end DhcpRelay.Roster
