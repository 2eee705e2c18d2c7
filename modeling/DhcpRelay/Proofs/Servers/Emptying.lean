import DhcpRelay.Proofs.Servers.Difference
import DhcpRelay.Proofs.Servers.Independence
import DhcpRelay.Proofs.Servers.Membership

/-!
# Emptying an interface

An interface is emptied by clearing it, by bringing it in line with no servers, or by removing
its servers one after the other.  The first two are series of removals as well.  In whatever
order the servers go, the list is gone in the end, the records count one interface less, and
the group was left once.
-/

namespace DhcpRelay.Roster

variable {Server : Type} {roster before between after other : Roster Server} {interface : String}

/-! ## Leaving the group -/

/-- The group is left if a list was there and is gone. -/
def parting (before after : Roster Server) (interface name : String) : List Turn :=
  if name = interface ∧ before.multicast = true ∧ before.hasList interface = true ∧
      after.hasList interface = false then
    [.leave]
  else
    []

theorem parting_self (roster : Roster Server) (interface name : String) :
    parting roster roster interface name = [] := by
  rw [parting, if_neg]
  intro gone
  cases gone.2.2.1.symm.trans gone.2.2.2

/-- Where a list does not come back, it goes once. -/
theorem parting_append (grouped : between.multicast = before.multicast)
    (first : between.hasList interface = true → before.hasList interface = true)
    (later : after.hasList interface = true → between.hasList interface = true) (name : String) :
    parting before between interface name ++ parting between after interface name =
      parting before after interface name := by
  rw [parting, parting, parting, grouped]
  cases has : before.hasList interface <;> cases kept : between.hasList interface <;>
    cases last : after.hasList interface <;> simp_all

theorem turns_delete (roster : Roster Server) (access : GroupAccess) (interface name : String) :
    turns name (roster.delete access interface).events =
      if name = interface ∧ roster.multicast = true then [.leave] else [] := by
  have about : ∀ event ∈ (roster.delete access interface).events,
      event.interface = interface := by
    rw [delete]
    cases roster.multicast <;> cases access.refusesLeave interface <;> simp [GroupEvent.interface]
  rw [turns, eventsOf_of_interface_eq about]
  by_cases own : name = interface
  · rw [if_pos own, delete]
    simp only [own, true_and]
    cases roster.multicast
    · rfl
    · cases access.refusesLeave interface <;> rfl
  · rw [if_neg own, if_neg fun both => own both.1]
    rfl

variable [DecidableEq Server] [ToString Server]

theorem turns_remove (roster : Roster Server) (access : GroupAccess) (interface : String)
    (server : Server) (name : String) :
    turns name (roster.remove access interface server).events =
      parting roster (roster.remove access interface server).roster interface name := by
  by_cases member : server ∈ roster.serversOf interface
  · have had := hasList_of_list? (list?_of_mem member)
    have left := hasList_unlinked member
    rw [remove, unlink_of_mem member]
    dsimp only
    split
    · have grouped : (roster.unlinked interface server).multicast = roster.multicast :=
        (Change.unlink (list?_of_mem member) member).sameElsewhere.multicast
      have gone : ((roster.unlinked interface server).delete access interface).roster.hasList
          interface = false := hasList_of_list?_none (Table.get?_erase_self _ _)
      rw [turns_delete, grouped, parting, had, gone]
      simp only [and_true]
    · rw [parting, if_neg]
      · rfl
      · intro gone
        cases (left.trans had).symm.trans gone.2.2.2
  · rw [remove_of_not_mem access member, parting_self]
    rfl

theorem hasList_of_hasList_remove {access : GroupAccess} {server : Server}
    (has : (roster.remove access interface server).roster.hasList interface = true) :
    roster.hasList interface = true := by
  by_cases member : server ∈ roster.serversOf interface
  · exact hasList_of_list? (list?_of_mem member)
  · rwa [remove_of_not_mem access member] at has

/-! ## Series of removals -/

/-- The calls that remove servers from an interface. -/
def removals (interface : String) (order : List (GroupAccess × Server)) :
    List (GroupAccess × Operation Server) :=
  order.map fun (access, server) => (access, .remove interface server)

/-- What the calls of a history answer. -/
def answers (roster : Roster Server) :
    List (GroupAccess × Operation Server) → List (Answer Server)
  | [] => []
  | (access, operation) :: rest =>
      (roster.call access operation).result :: (roster.perform access operation).answers rest

variable {order : List (GroupAccess × Server)}

theorem changes_after_removals (roster : Roster Server) (interface : String)
    (order : List (GroupAccess × Server)) :
    Changes interface roster (roster.after (removals interface order)) := by
  induction order generalizing roster with
  | nil => exact .refl roster
  | cons call rest ih => exact (changes_remove roster call.1 interface call.2).trans (ih _)

theorem hasList_of_hasList_after_removals
    (has : (roster.after (removals interface order)).hasList interface = true) :
    roster.hasList interface = true := by
  induction order generalizing roster with
  | nil => exact has
  | cons call rest ih => exact hasList_of_hasList_remove (ih has)

theorem turns_log_removals (roster : Roster Server) (interface : String)
    (order : List (GroupAccess × Server)) (name : String) :
    turns name (roster.log (removals interface order)) =
      parting roster (roster.after (removals interface order)) interface name := by
  induction order generalizing roster with
  | nil => exact (parting_self roster interface name).symm
  | cons call rest ih =>
      have grouped :=
        (changes_remove roster call.1 interface call.2).sameElsewhere.multicast
      have first := turns_remove roster call.1 interface call.2 name
      -- The list does not come back, so the partings of the series are one in all.
      rw [removals, List.map_cons, log, turns_append]
      exact (congrArg₂ (· ++ ·) first (ih _)).trans
        (parting_append grouped hasList_of_hasList_remove hasList_of_hasList_after_removals name)

/-- Servers that are listed can be removed in any order. -/
theorem after_removals (sound : roster.Sound) (distinct : (order.map Prod.snd).Nodup)
    (subset : ∀ server ∈ order.map Prod.snd, server ∈ roster.serversOf interface) :
    (roster.after (removals interface order)).serversOf interface =
        takeOff (roster.serversOf interface) (order.map Prod.snd) ∧
      ∀ answer ∈ roster.answers (removals interface order), answer = .removed (.ok ()) := by
  induction order generalizing roster with
  | nil => exact ⟨rfl, nofun⟩
  | cons call rest ih =>
      rcases call with ⟨access, server⟩
      have member := subset server List.mem_cons_self
      have left := sound.mem_remove_of_mem_tail access distinct subset
      rcases ih (sound.remove access interface server) distinct.of_cons left with
        ⟨list, granted⟩
      have done : (roster.call access (.remove interface server)).result = .removed (.ok ()) :=
        congrArg Answer.removed (remove_of_mem access member).1
      refine ⟨?_, List.forall_mem_cons.2 ⟨done, granted⟩⟩
      rw [List.map_cons, takeOff, ← serversOf_remove access member]
      exact list

/-- Removing all of some servers is a series of removals. -/
theorem removeAll_eq_after {servers : List Server} (sound : roster.Sound) (access : GroupAccess)
    (distinct : servers.Nodup) (subset : ∀ server ∈ servers, server ∈ roster.serversOf interface) :
    (roster.removeAll access interface servers).roster =
        roster.after (removals interface (servers.map (access, ·))) ∧
      (roster.removeAll access interface servers).events =
        roster.log (removals interface (servers.map (access, ·))) := by
  induction servers generalizing roster with
  | nil => exact ⟨rfl, rfl⟩
  | cons server rest ih =>
      have member := subset server List.mem_cons_self
      have left := sound.mem_remove_of_mem_tail access distinct subset
      rcases ih (sound.remove access interface server) distinct.of_cons left with ⟨same, events⟩
      rw [removeAll, (remove_of_mem access member).1]
      dsimp only
      rw [same, events]
      exact ⟨rfl, rfl⟩

/-! ## Interfaces without servers -/

/-- An interface has lost all its servers: its list is gone and nothing else, the records count
one interface less for each of them, and the group, if there is one, was left for the list. -/
structure IsEmptied (interface : String) (before after : Roster Server)
    (events : List GroupEvent) : Prop extends SameElsewhere interface before after where
  gone : after.list? interface = none
  counted : ∀ server ∈ before.serversOf interface, ∃ count,
    before.count? server = some (count + 1) ∧
      after.count? server = if count = 0 then none else some count
  uncounted : ∀ server, server ∉ before.serversOf interface →
    after.count? server = before.count? server
  turns : ∀ name, turns name events =
    if name = interface ∧ before.multicast = true ∧ before.hasList interface = true then [.leave]
    else []

omit [ToString Server] in
/-- Rosters in which an interface has lost all its servers cannot be told apart. -/
theorem IsEmptied.alike {events otherEvents : List GroupEvent} (consistent : after.Consistent)
    (otherConsistent : other.Consistent) (emptied : IsEmptied interface before after events)
    (otherEmptied : IsEmptied interface before other otherEvents) : after.Alike other := by
  apply consistent.alike otherConsistent
  · rw [emptied.capacity, otherEmptied.capacity]
  · rw [emptied.multicast, otherEmptied.multicast]
  · intro name
    by_cases same : name = interface
    · rw [same, emptied.gone, otherEmptied.gone]
    · rw [emptied.others same, otherEmptied.others same]

/-- Removing the servers of an interface in any order empties it. -/
theorem Sound.isEmptied_of_perm (sound : roster.Sound)
    (perm : (order.map Prod.snd).Perm (roster.serversOf interface)) :
    IsEmptied interface roster (roster.after (removals interface order))
      (roster.log (removals interface order)) := by
  have nodup := sound.nodup_serversOf interface
  have distinct := perm.nodup_iff.2 nodup
  have left := sound.after (removals interface order)
  have frame := (changes_after_removals roster interface order).sameElsewhere
  have list : (roster.after (removals interface order)).serversOf interface = [] := by
    rw [(after_removals sound distinct fun _ member => perm.mem_iff.1 member).1,
      List.eq_nil_iff_forall_not_mem]
    intro server member
    rw [mem_takeOff nodup distinct fun _ among => perm.mem_iff.1 among, perm.mem_iff] at member
    exact member.2 member.1
  have listings := frame.listings
  simp only [list, List.not_mem_nil, if_false, Nat.add_zero] at listings
  have gone : (roster.after (removals interface order)).list? interface = none := by
    rw [left.list?_eq, if_pos list]
  refine ⟨frame, gone, ?_, ?_, ?_⟩
  · intro server member
    refine ⟨(roster.after (removals interface order)).listings server, ?_, left.count?_eq server⟩
    rw [sound.count?_eq, ← listings, if_pos member, if_neg (Nat.succ_ne_zero _)]
  · intro server absent
    rw [left.count?_eq, sound.count?_eq, ← listings, if_neg absent, Nat.add_zero]
  · intro name
    rw [turns_log_removals, parting, hasList_of_list?_none gone]
    simp only [and_true]

/-- Clearing an interface is a series of removals. -/
theorem Sound.clear_eq_after (sound : roster.Sound) (access : GroupAccess) (interface : String) :
    (roster.clear access interface).roster =
        roster.after (removals interface ((roster.serversOf interface).map (access, ·))) ∧
      (roster.clear access interface).events =
        roster.log (removals interface ((roster.serversOf interface).map (access, ·))) := by
  have nodup := sound.nodup_serversOf interface
  rcases removeEach_of_mem sound access nodup fun _ member => member with ⟨_, each, eachEvents⟩
  rcases removeAll_eq_after sound access nodup fun _ member => member with ⟨all, allEvents⟩
  exact ⟨each.trans all, eachEvents.trans allEvents⟩

/-- Bringing an interface in line with no servers is a series of removals. -/
theorem Sound.assign_nil_eq_after (sound : roster.Sound) (access : GroupAccess)
    (interface : String) :
    (roster.assign access interface []).roster =
        roster.after (removals interface ((roster.serversOf interface).map (access, ·))) ∧
      (roster.assign access interface []).events =
        roster.log (removals interface ((roster.serversOf interface).map (access, ·))) := by
  have nodup := sound.nodup_serversOf interface
  rcases removeAll_of_mem sound access nodup fun _ member => member with ⟨removed, _, _⟩
  rcases removeAll_eq_after sound access nodup fun _ member => member with ⟨same, events⟩
  rw [assign_nil_eq, Run.andThen, removed]
  exact ⟨same, (List.append_nil _).trans events⟩

/-- After any history the ways to empty an interface agree: clearing it, bringing it in line
with no servers, and removing its servers in any order, whatever the group answers to those who
leave.  In the end there are the same lists and the same records; the interface has no list,
and the group was left for it once if it had one.  Clearing gives the servers in the order of
the list, bringing in line reports them so, and no removal fails. -/
theorem isEmptied_of_history (capacity : Nat) (multicast : Bool)
    (calls : List (GroupAccess × Operation Server)) (interface : String)
    (clearing assigning : GroupAccess) (order : List (GroupAccess × Server)) :
    let roster := (empty capacity multicast : Roster Server).after calls
    let cleared := roster.clear clearing interface
    let assigned := roster.assign assigning interface []
    let removed := roster.after (removals interface order)
    (order.map Prod.snd).Perm (roster.serversOf interface) →
      (cleared.roster.Alike assigned.roster ∧ cleared.roster.Alike removed) ∧
      IsEmptied interface roster cleared.roster cleared.events ∧
      IsEmptied interface roster assigned.roster assigned.events ∧
      IsEmptied interface roster removed (roster.log (removals interface order)) ∧
      cleared.result = roster.serversOf interface ∧
      assigned.result = .ok ⟨[], roster.serversOf interface⟩ ∧
      ∀ answer ∈ roster.answers (removals interface order), answer = .removed (.ok ()) := by
  intro roster cleared assigned removed perm
  have sound : roster.Sound := (sound_empty capacity multicast).after calls
  have inOrder (access : GroupAccess) :
      (((roster.serversOf interface).map (access, ·)).map Prod.snd).Perm
        (roster.serversOf interface) := by
    rw [List.map_map]
    exact .of_eq (List.map_id _)
  have clearedSound := clear_spec sound clearing interface
  have assignedSound := assign_nil sound assigning interface
  have byClearing : IsEmptied interface roster cleared.roster cleared.events := by
    rcases sound.clear_eq_after clearing interface with ⟨same, events⟩
    simp only [cleared, same, events]
    exact sound.isEmptied_of_perm (inOrder clearing)
  have byAssigning : IsEmptied interface roster assigned.roster assigned.events := by
    rcases sound.assign_nil_eq_after assigning interface with ⟨same, events⟩
    simp only [assigned, same, events]
    exact sound.isEmptied_of_perm (inOrder assigning)
  have byRemoving := sound.isEmptied_of_perm perm
  have nodup := perm.nodup_iff.2 (sound.nodup_serversOf interface)
  refine ⟨⟨?_, ?_⟩, byClearing, byAssigning, byRemoving, clearedSound.1, ?_, ?_⟩
  · exact byClearing.alike clearedSound.2.1.toConsistent assignedSound.2.2.toConsistent byAssigning
  · exact byClearing.alike clearedSound.2.1.toConsistent (sound.after _).toConsistent byRemoving
  · refine assignedSound.1.trans (congrArg Except.ok ?_)
    simp [difference]
  · exact (after_removals sound nodup fun _ member => perm.mem_iff.1 member).2

/-- An interface with three servers, one of which another interface lists as well, is emptied
from the end of its list.  The group does not let it go. -/
theorem isEmptied_of_history_sharedServer :
    let server (last : UInt8) := Server4.dhcp ⟨10, 0, 0, last⟩
    let granting : GroupAccess := ⟨fun _ => none, fun _ => none⟩
    let holding : GroupAccess := ⟨fun _ => none, fun _ => some "busy"⟩
    let roster := (empty 4 true : Roster Server4).after
      [(granting, .add "eth0" (server 1)),
        (granting, .assign "eth1" [server 1, server 2, server 3])]
    let order := [(granting, server 3), (granting, server 2), (holding, server 1)]
    let removed := roster.after (removals "eth1" order)
    (order.map Prod.snd).Perm (roster.serversOf "eth1") ∧
      (roster.clear granting "eth1").roster.Alike removed ∧
      IsEmptied "eth1" roster removed (roster.log (removals "eth1" order)) ∧
      removed.count? (server 1) = some 1 ∧
      turns "eth1" (roster.log (removals "eth1" order)) = [.leave] := by
  intro server granting holding roster order removed
  have perm : (order.map Prod.snd).Perm (roster.serversOf "eth1") := by decide +kernel
  have counted : removed.count? (server 1) = some 1 := by decide +kernel
  have once : turns "eth1" (roster.log (removals "eth1" order)) = [.leave] := by decide +kernel
  rcases isEmptied_of_history 4 true
    [(granting, .add "eth0" (server 1)), (granting, .assign "eth1" [server 1, server 2, server 3])]
    "eth1" granting granting order perm with ⟨⟨_, alike⟩, _, _, emptied, _⟩
  exact ⟨perm, alike, emptied, counted, once⟩

end DhcpRelay.Roster
