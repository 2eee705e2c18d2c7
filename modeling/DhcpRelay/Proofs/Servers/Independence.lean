import DhcpRelay.Proofs.Servers.History
import DhcpRelay.Servers.Basic

/-!
# Calls about different interfaces

A call finds out about a roster from the list of its interface alone, and this is the only
list that it changes.  The records follow from the lists.  So two calls about different
interfaces can be made in either order.  Whether the group lets an interface go makes no
difference to this.
-/

namespace DhcpRelay.Roster

variable {Server Result : Type}

/-- Two rosters agree about an interface. -/
structure AgreesAt (interface : String) (roster other : Roster Server) : Prop where
  capacity : roster.capacity = other.capacity
  multicast : roster.multicast = other.multicast
  list : roster.list? interface = other.list? interface

/-- Two runs had the same result, and they agree about an interface afterwards. -/
structure Run.AgreesAt (interface : String) (run other : Run Server Result) : Prop where
  result : run.result = other.result
  rosters : run.roster.AgreesAt interface other.roster

variable {interface : String} {roster other after otherAfter : Roster Server}
  {access otherAccess : GroupAccess}

theorem SameElsewhere.agreesAt (frame : SameElsewhere interface roster after) {elsewhere : String}
    (different : elsewhere ≠ interface) : roster.AgreesAt elsewhere after :=
  ⟨frame.capacity.symm, frame.multicast.symm, (frame.others different).symm⟩

namespace AgreesAt

theorem serversOf (agrees : roster.AgreesAt interface other) :
    roster.serversOf interface = other.serversOf interface := by
  rw [Roster.serversOf, agrees.list, Roster.serversOf]

/-- Changes at the interface that lead to the same list keep the agreement. -/
theorem of_sameElsewhere (agrees : roster.AgreesAt interface other)
    (frame : SameElsewhere interface roster after)
    (otherFrame : SameElsewhere interface other otherAfter)
    (list : after.list? interface = otherAfter.list? interface) :
    after.AgreesAt interface otherAfter where
  capacity := by rw [frame.capacity, otherFrame.capacity, agrees.capacity]
  multicast := by rw [frame.multicast, otherFrame.multicast, agrees.multicast]
  list := list

/-! ## Lists that are made and taken away -/

theorem create (agrees : roster.AgreesAt interface other)
    (joins : access.refusesJoin = otherAccess.refusesJoin) :
    (roster.create access interface).AgreesAt interface (other.create otherAccess interface) := by
  have made : AgreesAt interface { roster with lists := roster.lists.put interface [] }
      { other with lists := other.lists.put interface [] } := by
    refine ⟨agrees.capacity, agrees.multicast, ?_⟩
    exact (Table.get?_put_self ..).trans (Table.get?_put_self ..).symm
  rw [agrees.capacity, agrees.multicast] at made
  rw [Roster.create, Roster.create, agrees.capacity, agrees.multicast, joins]
  by_cases full : other.capacity = 0
  · rw [if_pos full, if_pos full]
    exact ⟨rfl, agrees⟩
  · rw [if_neg full, if_neg full]
    by_cases grouped : other.multicast = true
    · rw [if_pos grouped, if_pos grouped]
      cases otherAccess.refusesJoin interface with
      | some reason => exact ⟨rfl, agrees⟩
      | none => exact ⟨rfl, made⟩
    · rw [if_neg grouped, if_neg grouped]
      exact ⟨rfl, made⟩

theorem delete (agrees : roster.AgreesAt interface other) (access otherAccess : GroupAccess) :
    (roster.delete access interface).AgreesAt interface
      (other.delete otherAccess interface) where
  result := rfl
  rosters := by
    refine ⟨agrees.capacity, agrees.multicast, ?_⟩
    exact (Table.get?_erase_self ..).trans (Table.get?_erase_self ..).symm

theorem ensure (agrees : roster.AgreesAt interface other)
    (joins : access.refusesJoin = otherAccess.refusesJoin) :
    (roster.ensure access interface).AgreesAt interface (other.ensure otherAccess interface) := by
  have same : roster.lists.contains interface = other.lists.contains interface :=
    congrArg Option.isSome agrees.list
  rw [Roster.ensure, Roster.ensure, same]
  by_cases present : other.lists.contains interface = true
  · rw [if_pos present, if_pos present]
    exact ⟨rfl, agrees⟩
  · rw [if_neg present, if_neg present]
    exact agrees.create joins

/-! ## Adding -/

variable [DecidableEq Server]

theorem link (agrees : roster.AgreesAt interface other) (server : Server) :
    (roster.link interface server).AgreesAt interface (other.link interface server) := by
  cases listed : roster.list? interface with
  | some servers =>
      have otherListed := agrees.list.symm.trans listed
      refine ⟨?_, ?_, ?_⟩
      · rw [link_eq listed, link_eq otherListed]
        exact agrees.capacity
      · rw [link_eq listed, link_eq otherListed]
        exact agrees.multicast
      · rw [list?_link listed, list?_link otherListed]
  | none =>
      have absent : (roster.addRecord server).lists.get? interface = none := listed
      have otherAbsent : (other.addRecord server).lists.get? interface = none :=
        agrees.list.symm.trans listed
      simp only [Roster.link, absent, otherAbsent]
      exact ⟨agrees.capacity, agrees.multicast, agrees.list⟩

theorem add (agrees : roster.AgreesAt interface other)
    (joins : access.refusesJoin = otherAccess.refusesJoin) (server : Server) :
    (roster.add access interface server).AgreesAt interface
      (other.add otherAccess interface server) := by
  cases listed : roster.list? interface with
  | some servers =>
      have found : roster.lists.get? interface = some servers := listed
      have otherFound : other.lists.get? interface = some servers :=
        agrees.list.symm.trans listed
      simp only [Roster.add, found, otherFound, agrees.capacity]
      by_cases member : server ∈ servers
      · rw [if_pos member, if_pos member]
        exact ⟨rfl, agrees⟩
      · rw [if_neg member, if_neg member]
        by_cases full : other.capacity ≤ servers.length
        · rw [if_pos full, if_pos full]
          exact ⟨rfl, agrees⟩
        · rw [if_neg full, if_neg full]
          exact ⟨rfl, agrees.link server⟩
  | none =>
      have absent : roster.lists.get? interface = none := listed
      have otherAbsent : other.lists.get? interface = none := agrees.list.symm.trans listed
      have created := agrees.create joins
      simp only [Roster.add, absent, otherAbsent, created.result]
      cases (other.create otherAccess interface).result with
      | error fault => exact ⟨rfl, created.rosters⟩
      | ok => exact ⟨rfl, created.rosters.link server⟩

theorem addAll (agrees : roster.AgreesAt interface other)
    (joins : access.refusesJoin = otherAccess.refusesJoin) (servers : List Server) :
    (roster.addAll access interface servers).AgreesAt interface
      (other.addAll otherAccess interface servers) := by
  induction servers generalizing roster other with
  | nil => exact ⟨rfl, agrees⟩
  | cons server rest ih =>
      have first := agrees.add joins server
      have later := ih first.rosters
      simp only [Roster.addAll, first.result]
      cases (other.add otherAccess interface server).result with
      | error fault => exact ⟨rfl, first.rosters⟩
      | ok => exact ⟨later.result, later.rosters⟩

/-! ## Removing -/

theorem unlinked (agrees : roster.AgreesAt interface other) {server : Server}
    (member : server ∈ roster.serversOf interface) :
    (roster.unlinked interface server).AgreesAt interface (other.unlinked interface server) := by
  have listed := list?_of_mem member
  have otherListed := agrees.list.symm.trans listed
  refine agrees.of_sameElsewhere (Change.unlink listed member).sameElsewhere
    (Change.unlink otherListed member).sameElsewhere ?_
  rw [list?_unlinked listed, list?_unlinked otherListed]

variable [ToString Server]

theorem remove (agrees : roster.AgreesAt interface other) (access otherAccess : GroupAccess)
    (server : Server) :
    (roster.remove access interface server).AgreesAt interface
      (other.remove otherAccess interface server) := by
  by_cases member : server ∈ roster.serversOf interface
  · have left := agrees.unlinked member
    have otherMember : server ∈ other.serversOf interface := agrees.serversOf ▸ member
    have same : (roster.unlinked interface server).lists.get? interface =
        (other.unlinked interface server).lists.get? interface := left.list
    rw [Roster.remove, Roster.remove, unlink_of_mem member, unlink_of_mem otherMember]
    dsimp only
    rw [same]
    by_cases last : (other.unlinked interface server).lists.get? interface = some []
    · rw [if_pos last, if_pos last]
      exact ⟨rfl, (left.delete access otherAccess).rosters⟩
    · rw [if_neg last, if_neg last]
      exact ⟨rfl, left⟩
  · have otherAbsent : server ∉ other.serversOf interface := agrees.serversOf ▸ member
    rw [remove_of_not_mem access member, remove_of_not_mem otherAccess otherAbsent]
    exact ⟨rfl, agrees⟩

theorem removeEach (agrees : roster.AgreesAt interface other) (access otherAccess : GroupAccess)
    (servers : List Server) :
    (roster.removeEach access interface servers).AgreesAt interface
      (other.removeEach otherAccess interface servers) := by
  induction servers generalizing roster other with
  | nil => exact ⟨rfl, agrees⟩
  | cons server rest ih =>
      have first := agrees.remove access otherAccess server
      have later := ih first.rosters
      simp only [Roster.removeEach, first.result]
      cases (other.remove otherAccess interface server).result with
      | error fault => exact ⟨later.result, later.rosters⟩
      | ok => exact ⟨congrArg (server :: ·) later.result, later.rosters⟩

theorem removeAll (agrees : roster.AgreesAt interface other) (access otherAccess : GroupAccess)
    (servers : List Server) :
    (roster.removeAll access interface servers).AgreesAt interface
      (other.removeAll otherAccess interface servers) := by
  induction servers generalizing roster other with
  | nil => exact ⟨rfl, agrees⟩
  | cons server rest ih =>
      have first := agrees.remove access otherAccess server
      have later := ih first.rosters
      simp only [Roster.removeAll, first.result]
      cases (other.remove otherAccess interface server).result with
      | error fault => exact ⟨rfl, first.rosters⟩
      | ok => exact ⟨later.result, later.rosters⟩

theorem unlinkAll (agrees : roster.AgreesAt interface other) (servers : List Server) :
    (roster.unlinkAll interface servers).AgreesAt interface
      (other.unlinkAll interface servers) := by
  induction servers generalizing roster other with
  | nil => exact ⟨rfl, agrees⟩
  | cons server rest ih =>
      by_cases member : server ∈ roster.serversOf interface
      · have otherMember : server ∈ other.serversOf interface := agrees.serversOf ▸ member
        rw [Roster.unlinkAll, Roster.unlinkAll, unlink_of_mem member, unlink_of_mem otherMember]
        exact ih (agrees.unlinked member)
      · have otherAbsent : server ∉ other.serversOf interface := agrees.serversOf ▸ member
        rw [Roster.unlinkAll, Roster.unlinkAll, unlink_of_not_mem member,
          unlink_of_not_mem otherAbsent]
        exact ⟨rfl, agrees⟩

end AgreesAt

/-! ## Bringing in line -/

theorem Run.AgreesAt.andThen {run otherRun : Run Server (Except RosterFault Unit)}
    (agree : run.AgreesAt interface otherRun)
    {next otherNext : Roster Server → Run Server (Except RosterFault Result)}
    (later : ∀ {roster other : Roster Server}, roster.AgreesAt interface other →
      (next roster).AgreesAt interface (otherNext other)) :
    (run.andThen next).AgreesAt interface (otherRun.andThen otherNext) := by
  have behind := later agree.rosters
  simp only [Run.andThen, agree.result]
  cases otherRun.result with
  | error fault => exact ⟨rfl, agree.rosters⟩
  | ok => exact ⟨behind.result, behind.rosters⟩

variable [DecidableEq Server] [ToString Server]

theorem AgreesAt.assign (agrees : roster.AgreesAt interface other)
    (joins : access.refusesJoin = otherAccess.refusesJoin) (desired : List Server) :
    (roster.assign access interface desired).AgreesAt interface
      (other.assign otherAccess interface desired) := by
  rw [Roster.assign, Roster.assign, agrees.serversOf, agrees.capacity]
  by_cases large : other.capacity < desired.eraseDups.length
  · rw [if_pos large, if_pos large]
    exact ⟨rfl, agrees⟩
  · rw [if_neg large, if_neg large]
    by_cases none : desired.eraseDups.isEmpty = true
    · rw [if_pos none, if_pos none]
      exact (agrees.removeAll access otherAccess _).andThen fun agree => ⟨rfl, agree⟩
    · rw [if_neg none, if_neg none]
      refine (agrees.ensure joins).andThen fun created => ?_
      refine (created.unlinkAll _).andThen fun unlinked => ?_
      exact (unlinked.addAll joins _).andThen fun agree => ⟨rfl, agree⟩

/-! ## Calls -/

theorem AgreesAt.clear (agrees : roster.AgreesAt interface other)
    (access otherAccess : GroupAccess) :
    (roster.clear access interface).AgreesAt interface (other.clear otherAccess interface) := by
  rw [Roster.clear, Roster.clear, agrees.serversOf]
  exact agrees.removeEach access otherAccess _

omit [DecidableEq Server] [ToString Server] in
theorem Run.AgreesAt.answer {run otherRun : Run Server Result}
    (agree : run.AgreesAt interface otherRun) (answer : Result → Answer Server) :
    (run.answer answer).AgreesAt interface (otherRun.answer answer) :=
  ⟨congrArg answer agree.result, agree.rosters⟩

/-- A call does the same to rosters that agree about its interface, if the group answers
those who want to join alike. -/
theorem AgreesAt.call {operation : Operation Server}
    (agrees : roster.AgreesAt operation.interface other)
    (joins : access.refusesJoin = otherAccess.refusesJoin) :
    (roster.call access operation).AgreesAt operation.interface
      (other.call otherAccess operation) := by
  cases operation with
  | add interface server => exact (agrees.add joins server).answer .added
  | remove interface server => exact (agrees.remove access otherAccess server).answer .removed
  | clear interface => exact (agrees.clear access otherAccess).answer .cleared
  | assign interface desired => exact (agrees.assign joins desired).answer .assigned

/-! ## Rosters that cannot be told apart -/

/-- Two rosters have the same lists and the same records. -/
structure Alike (roster other : Roster Server) : Prop where
  capacity : roster.capacity = other.capacity
  multicast : roster.multicast = other.multicast
  lists : ∀ interface, roster.list? interface = other.list? interface
  counts : ∀ server, roster.count? server = other.count? server

omit [ToString Server] in
/-- Where lists and records agree, the same lists mean the same records. -/
theorem Consistent.alike (consistent : roster.Consistent) (otherConsistent : other.Consistent)
    (capacity : roster.capacity = other.capacity) (multicast : roster.multicast = other.multicast)
    (lists : ∀ interface, roster.list? interface = other.list? interface) :
    roster.Alike other where
  capacity := capacity
  multicast := multicast
  lists := lists
  counts server := by
    have listings : roster.listings server = other.listings server :=
      Table.tally_congr lists _
    rw [consistent.count?_eq, otherConsistent.count?_eq, listings]

/-! ## Either order -/

theorem sameElsewhere_call (roster : Roster Server) (access : GroupAccess)
    (operation : Operation Server) :
    SameElsewhere operation.interface roster (roster.call access operation).roster := by
  rw [roster_call]
  exact (changes_perform roster access operation).sameElsewhere

theorem Sound.call (sound : roster.Sound) (access : GroupAccess) (operation : Operation Server) :
    (roster.call access operation).roster.Sound := by
  rw [roster_call]
  exact sound.perform access operation

/-- A call does the same whether another one, about another interface, comes before it or
not. -/
theorem agreesAt_call_after (roster : Roster Server) {operation earlier : Operation Server}
    (different : operation.interface ≠ earlier.interface) (earlierAccess : GroupAccess)
    (joins : access.refusesJoin = otherAccess.refusesJoin) :
    (roster.call access operation).AgreesAt operation.interface
      ((roster.call earlierAccess earlier).roster.call otherAccess operation) :=
  ((sameElsewhere_call roster earlierAccess earlier).agreesAt different).call joins

/-- After any history, two calls about different interfaces can be made in either order, also
if they are about the same server: each has the same result both times, and in the end there
are the same lists and the same records.  Joins are answered alike both times, but an interface
that leaves the group may be let go one time and not the other. -/
theorem call_comm_of_history (capacity : Nat) (multicast : Bool)
    (calls : List (GroupAccess × Operation Server)) {first second : Operation Server}
    (different : first.interface ≠ second.interface)
    (joins leaves leavesSecond leavesLater leavesSecondLater : String → Option String) :
    let roster := (empty capacity multicast : Roster Server).after calls
    let firstRun := roster.call ⟨joins, leaves⟩ first
    let secondRun := roster.call ⟨joins, leavesSecond⟩ second
    let firstLater := secondRun.roster.call ⟨joins, leavesLater⟩ first
    let secondLater := firstRun.roster.call ⟨joins, leavesSecondLater⟩ second
    firstLater.result = firstRun.result ∧ secondLater.result = secondRun.result ∧
      secondLater.roster.Alike firstLater.roster := by
  intro roster firstRun secondRun firstLater secondLater
  have sound : roster.Sound := (sound_empty capacity multicast).after calls
  have forFirst : firstRun.AgreesAt first.interface firstLater :=
    agreesAt_call_after roster different _ rfl
  have forSecond : secondRun.AgreesAt second.interface secondLater :=
    agreesAt_call_after roster different.symm _ rfl
  have byFirst := sameElsewhere_call roster ⟨joins, leaves⟩ first
  have bySecond := sameElsewhere_call roster ⟨joins, leavesSecond⟩ second
  have thenFirst := sameElsewhere_call secondRun.roster ⟨joins, leavesLater⟩ first
  have thenSecond := sameElsewhere_call firstRun.roster ⟨joins, leavesSecondLater⟩ second
  have lists (interface : String) :
      secondLater.roster.list? interface = firstLater.roster.list? interface := by
    by_cases isFirst : interface = first.interface
    · subst isFirst
      exact (thenSecond.others different).trans forFirst.rosters.list
    · by_cases isSecond : interface = second.interface
      · subst isSecond
        exact forSecond.rosters.list.symm.trans (thenFirst.others different.symm).symm
      · rw [thenSecond.others isSecond, byFirst.others isFirst, thenFirst.others isFirst,
          bySecond.others isSecond]
  have secondSound : secondLater.roster.Sound := (sound.call _ first).call _ second
  have firstSound : firstLater.roster.Sound := (sound.call _ second).call _ first
  refine ⟨forFirst.result.symm, forSecond.result.symm, ?_⟩
  apply secondSound.alike firstSound.toConsistent
  · rw [thenSecond.capacity, byFirst.capacity, thenFirst.capacity, bySecond.capacity]
  · rw [thenSecond.multicast, byFirst.multicast, thenFirst.multicast, bySecond.multicast]
  · exact lists

/-- An interface gives up a server that another one gets, with room for one.  The group lets
the interface go in one order and not in the other. -/
theorem call_comm_of_history_sharedServer :
    let server := Server4.dhcp ⟨10, 0, 0, 5⟩
    let granting : GroupAccess := ⟨fun _ => none, fun _ => none⟩
    let holding : GroupAccess := ⟨fun _ => none, fun _ => some "busy"⟩
    let first : Operation Server4 := .remove "eth0" server
    let second : Operation Server4 := .assign "eth1" [server]
    let roster := (empty 1 true : Roster Server4).after [(granting, .add "eth0" server)]
    let firstLater := (roster.call granting second).roster.call holding first
    let secondLater := (roster.call granting first).roster.call granting second
    first.interface ≠ second.interface ∧
      firstLater.result = .removed (.ok ()) ∧
      secondLater.result = .assigned (.ok ⟨[server], []⟩) ∧
      secondLater.roster.count? server = some 1 ∧
      secondLater.roster.Alike firstLater.roster := by
  intro server granting holding first second roster firstLater secondLater
  have different : first.interface ≠ second.interface := by decide
  have removed : (roster.call granting first).result = .removed (.ok ()) := by decide +kernel
  have assigned : (roster.call granting second).result = .assigned (.ok ⟨[server], []⟩) := by
    decide +kernel
  have counted : secondLater.roster.count? server = some 1 := by decide +kernel
  rcases call_comm_of_history 1 true [(granting, .add "eth0" server)] different (fun _ => none)
    (fun _ => none) (fun _ => none) (fun _ => some "busy") (fun _ => none) with
    ⟨sameFirst, sameSecond, alike⟩
  exact ⟨different, sameFirst.trans removed, sameSecond.trans assigned, counted, alike⟩

end DhcpRelay.Roster
