import DhcpRelay.Proofs.Servers.History
import Mathlib.Data.List.Chain

/-!
# Joining and leaving the group

A roster with a group joins it for an interface when its list is made, and leaves it when
the list goes.  Each call is one of a few episodes for each interface.  Over a history the
joins and leaves of an interface take turns.
-/

namespace DhcpRelay

/-- The interface that an event is about. -/
def GroupEvent.interface : GroupEvent → String
  | joined interface => interface
  | joinRefused interface _ => interface
  | created interface => interface
  | deleted interface => interface
  | left interface => interface
  | leaveRefused interface _ => interface

namespace Roster

/-- A join that was granted, or a call to leave. -/
inductive Turn where
  | join
  | leave
  deriving DecidableEq, Repr

/-- Leaving counts whether the group agrees or not. -/
def turn? : GroupEvent → Option Turn
  | .joined _ => some .join
  | .left _ => some .leave
  | .leaveRefused _ _ => some .leave
  | _ => none

/-- The events of one interface. -/
def eventsOf (interface : String) (events : List GroupEvent) : List GroupEvent :=
  events.filter (·.interface = interface)

/-- The joins and leaves of one interface. -/
def turns (interface : String) (events : List GroupEvent) : List Turn :=
  (eventsOf interface events).filterMap turn?

theorem turns_append (interface : String) (first later : List GroupEvent) :
    turns interface (first ++ later) = turns interface first ++ turns interface later := by
  simp [turns, eventsOf]

/-- What a call can be for an interface, which has a list before it or not, and has one
afterwards or not: nothing that the group hears of, a join that is refused, or a join or a
leave together with the list. -/
inductive Episode (interface : String) : (had has : Bool) → List GroupEvent → Prop where
  | quiet (has : Bool) : Episode interface has has []
  | refused (reason : String) : Episode interface false false [.joinRefused interface reason]
  | joined : Episode interface false true [.joined interface, .created interface]
  | left : Episode interface true false [.deleted interface, .left interface]
  | leaveRefused (reason : String) :
      Episode interface true false [.deleted interface, .leaveRefused interface reason]

variable {interface : String} {had between has : Bool} {events first later : List GroupEvent}

theorem eventsOf_of_interface_eq (about : ∀ event ∈ events, event.interface = interface)
    (name : String) : eventsOf name events = if name = interface then events else [] := by
  rw [eventsOf]
  by_cases own : name = interface
  · rw [if_pos own, List.filter_eq_self]
    exact fun event member => decide_eq_true ((about event member).trans own.symm)
  · rw [if_neg own, List.filter_eq_nil_iff]
    exact fun event member same => own ((of_decide_eq_true same).symm.trans (about event member))

/-- The events of an episode are about its interface. -/
theorem Episode.interface_eq (episode : Episode interface had has events) :
    ∀ event ∈ events, event.interface = interface := by
  cases episode <;> simp [GroupEvent.interface]

/-- Where a list is not made again once it is gone, two episodes are one. -/
theorem Episode.append (before : Episode interface true between first)
    (behind : Episode interface between has later) (once : between = false → later = []) :
    Episode interface true has (first ++ later) := by
  cases before with
  | quiet => exact behind
  | left =>
      rw [once rfl] at behind ⊢
      cases behind
      exact .left
  | leaveRefused reason =>
      rw [once rfl] at behind ⊢
      cases behind
      exact .leaveRefused reason

variable {Server Result : Type} {roster : Roster Server}

/-- The interface has a list. -/
def hasList (roster : Roster Server) (interface : String) : Bool :=
  (roster.list? interface).isSome

/-- The run is an episode of an interface. -/
def Run.IsEpisode (roster : Roster Server) (interface : String) (run : Run Server Result) :
    Prop :=
  Episode interface (roster.hasList interface) (run.roster.hasList interface) run.events

/-- The run neither makes nor takes away the list of an interface, and nothing is heard of
it. -/
structure Run.IsQuiet (roster : Roster Server) (interface : String)
    (run : Run Server Result) : Prop where
  hasList : run.roster.hasList interface = roster.hasList interface
  silent : run.events = []

theorem Run.IsQuiet.isEpisode {run : Run Server Result} (quiet : run.IsQuiet roster interface) :
    run.IsEpisode roster interface := by
  rw [Run.IsEpisode, quiet.hasList, quiet.silent]
  exact .quiet _

theorem Run.isQuiet_silent (roster : Roster Server) (interface : String) (result : Result) :
    (⟨result, roster, []⟩ : Run Server Result).IsQuiet roster interface :=
  ⟨rfl, rfl⟩

theorem hasList_of_list? {servers : List Server} (listed : roster.list? interface = some servers) :
    roster.hasList interface = true := by
  rw [hasList, listed]
  rfl

theorem hasList_of_list?_none (absent : roster.list? interface = none) :
    roster.hasList interface = false := by
  rw [hasList, absent]
  rfl

theorem hasList_eq_false_iff :
    roster.hasList interface = false ↔ roster.list? interface = none := by
  rw [hasList, Option.isSome_eq_false_iff, Option.isNone_iff_eq_none]

/-! ## Lists that are made and taken away -/

theorem isEpisode_create (grouped : roster.multicast = true) (access : GroupAccess)
    (absent : roster.list? interface = none) :
    (roster.create access interface).IsEpisode roster interface := by
  have made : hasList { roster with lists := roster.lists.put interface [] } interface = true :=
    hasList_of_list? (Table.get?_put_self _ _ _)
  rw [Run.IsEpisode, hasList_of_list?_none absent, create, if_pos grouped]
  by_cases full : roster.capacity = 0
  · rw [if_pos full, hasList_of_list?_none absent]
    exact .quiet false
  · rw [if_neg full]
    cases access.refusesJoin interface with
    | some reason =>
        dsimp only
        rw [hasList_of_list?_none absent]
        exact .refused reason
    | none =>
        dsimp only
        rw [made]
        exact .joined

theorem isEpisode_delete (grouped : roster.multicast = true) (access : GroupAccess)
    (listed : roster.hasList interface = true) :
    (roster.delete access interface).IsEpisode roster interface := by
  have gone : hasList { roster with lists := roster.lists.erase interface } interface = false :=
    hasList_of_list?_none (Table.get?_erase_self _ _)
  rw [Run.IsEpisode, listed, delete, if_pos grouped]
  dsimp only
  rw [gone]
  cases access.refusesLeave interface with
  | some reason => exact .leaveRefused reason
  | none => exact .left

/-! ## Adding -/

variable [DecidableEq Server]

theorem hasList_link (roster : Roster Server) (interface : String) (server : Server) :
    (roster.link interface server).hasList interface = roster.hasList interface := by
  cases listed : roster.list? interface with
  | some servers =>
      rw [hasList_of_list? (list?_link listed server), hasList_of_list? listed]
  | none =>
      have absent : (roster.addRecord server).lists.get? interface = none := listed
      simp only [link, absent]
      rfl

/-- Nothing is heard of servers that are added to a list. -/
theorem isQuiet_add (access : GroupAccess) (listed : roster.hasList interface = true)
    (server : Server) : (roster.add access interface server).IsQuiet roster interface := by
  rcases Option.isSome_iff_exists.1 listed with ⟨servers, present⟩
  have found : roster.lists.get? interface = some servers := present
  simp only [add, found]
  split
  · exact Run.isQuiet_silent ..
  · split
    · exact Run.isQuiet_silent ..
    · exact ⟨hasList_link roster interface server, rfl⟩

theorem isEpisode_add (grouped : roster.multicast = true) (access : GroupAccess)
    (interface : String) (server : Server) :
    (roster.add access interface server).IsEpisode roster interface := by
  cases listed : roster.list? interface with
  | some servers => exact (isQuiet_add access (hasList_of_list? listed) server).isEpisode
  | none =>
      have absent : roster.lists.get? interface = none := listed
      have created := isEpisode_create grouped access listed
      simp only [add, absent]
      cases (roster.create access interface).result with
      | error fault => exact created
      | ok =>
          rw [Run.IsEpisode] at created ⊢
          dsimp only
          rw [hasList_link]
          exact created

theorem isQuiet_addAll (access : GroupAccess) (listed : roster.hasList interface = true)
    (servers : List Server) :
    (roster.addAll access interface servers).IsQuiet roster interface := by
  induction servers generalizing roster with
  | nil => exact Run.isQuiet_silent ..
  | cons server rest ih =>
      have first := isQuiet_add access listed server
      have later := ih (first.hasList.trans listed)
      rw [addAll]
      dsimp only
      split
      · exact ⟨first.hasList, first.silent⟩
      · refine ⟨later.hasList.trans first.hasList, ?_⟩
        rw [first.silent, later.silent]
        rfl

/-! ## Removing -/

theorem hasList_unlinked {server : Server} (member : server ∈ roster.serversOf interface) :
    (roster.unlinked interface server).hasList interface = roster.hasList interface := by
  have listed := list?_of_mem member
  rw [hasList_of_list? (list?_unlinked listed server), hasList_of_list? listed]

variable [ToString Server]

theorem isQuiet_unlinkAll (roster : Roster Server) (interface : String)
    (servers : List Server) : (roster.unlinkAll interface servers).IsQuiet roster interface := by
  induction servers generalizing roster with
  | nil => exact Run.isQuiet_silent ..
  | cons server rest ih =>
      by_cases member : server ∈ roster.serversOf interface
      · rw [unlinkAll, unlink_of_mem member]
        exact ⟨(ih _).hasList.trans (hasList_unlinked member), (ih _).silent⟩
      · rw [unlinkAll, unlink_of_not_mem member]
        exact Run.isQuiet_silent ..

theorem isEpisode_remove (grouped : roster.multicast = true) (access : GroupAccess)
    (interface : String) (server : Server) :
    (roster.remove access interface server).IsEpisode roster interface := by
  by_cases member : server ∈ roster.serversOf interface
  · have listed := list?_of_mem member
    have left := hasList_unlinked member
    have stillGrouped : (roster.unlinked interface server).multicast = true :=
      (Change.unlink listed member).sameElsewhere.multicast.trans grouped
    rw [remove, unlink_of_mem member]
    dsimp only
    split
    · rw [Run.IsEpisode, ← left]
      exact isEpisode_delete stillGrouped access (left.trans (hasList_of_list? listed))
    · exact Run.IsQuiet.isEpisode ⟨left, rfl⟩
  · rw [remove_of_not_mem access member]
    exact (Run.isQuiet_silent ..).isEpisode

theorem isQuiet_removeAll_of_absent (access : GroupAccess) (absent : roster.list? interface = none)
    (servers : List Server) :
    (roster.removeAll access interface servers).IsQuiet roster interface := by
  cases servers with
  | nil => exact Run.isQuiet_silent ..
  | cons server rest =>
      have unknown : server ∉ roster.serversOf interface := by
        simp [serversOf_of_list?_none absent]
      rw [removeAll, remove_of_not_mem access unknown]
      exact Run.isQuiet_silent ..

theorem isEpisode_removeAll (grouped : roster.multicast = true) (access : GroupAccess)
    (interface : String) (servers : List Server) :
    (roster.removeAll access interface servers).IsEpisode roster interface := by
  induction servers generalizing roster with
  | nil => exact (Run.isQuiet_silent ..).isEpisode
  | cons server rest ih =>
      cases listed : roster.list? interface with
      | none => exact (isQuiet_removeAll_of_absent access listed _).isEpisode
      | some servers =>
          have first := isEpisode_remove grouped access interface server
          have stillGrouped :=
            (changes_remove roster access interface server).sameElsewhere.multicast.trans grouped
          rw [removeAll]
          dsimp only
          split
          · exact first
          · rw [Run.IsEpisode, hasList_of_list? listed] at first ⊢
            refine first.append (ih stillGrouped) fun gone => ?_
            exact (isQuiet_removeAll_of_absent access (hasList_eq_false_iff.1 gone) rest).silent

theorem Sound.isEpisode_clear (sound : roster.Sound) (grouped : roster.multicast = true)
    (access : GroupAccess) (interface : String) :
    (roster.clear access interface).IsEpisode roster interface := by
  have nodup := sound.nodup_serversOf interface
  rcases removeEach_of_mem sound access nodup fun _ member => member with ⟨_, same, events⟩
  rw [Run.IsEpisode, clear, same, events]
  exact isEpisode_removeAll grouped access interface (roster.serversOf interface)

/-! ## Bringing in line -/

section

variable {run : Run Server (Except RosterFault Unit)}
  {next : Roster Server → Run Server (Except RosterFault Result)}

omit [DecidableEq Server] [ToString Server] in
theorem isEpisode_andThen (first : run.IsEpisode roster interface)
    (later : run.result = .ok () → (next run.roster).IsQuiet run.roster interface) :
    (run.andThen next).IsEpisode roster interface := by
  rw [Run.andThen]
  split
  · exact first
  · rename_i done
    rw [Run.IsEpisode] at first ⊢
    dsimp only
    rw [(later done).hasList, (later done).silent, List.append_nil]
    exact first

omit [DecidableEq Server] [ToString Server] in
theorem isQuiet_andThen (first : run.IsQuiet roster interface)
    (later : (next run.roster).IsQuiet run.roster interface) :
    (run.andThen next).IsQuiet roster interface := by
  rw [Run.andThen]
  split
  · exact ⟨first.hasList, first.silent⟩
  · refine ⟨later.hasList.trans first.hasList, ?_⟩
    dsimp only
    rw [first.silent, later.silent]
    rfl

/-- An interface keeps its list while servers are exchanged, even if it is empty meanwhile. -/
theorem isQuiet_exchange (access : GroupAccess) (listed : roster.hasList interface = true)
    (removed added : List Server)
    (last : ∀ roster, (next roster).IsQuiet roster interface) :
    ((roster.unlinkAll interface removed).andThen fun roster =>
      (roster.addAll access interface added).andThen next).IsQuiet roster interface := by
  have unlinked := isQuiet_unlinkAll roster interface removed
  apply isQuiet_andThen unlinked
  exact isQuiet_andThen (isQuiet_addAll access (unlinked.hasList.trans listed) added) (last _)

end

theorem isQuiet_assign {desired : List Server} (access : GroupAccess)
    (listed : roster.hasList interface = true) (some : desired ≠ []) :
    (roster.assign access interface desired).IsQuiet roster interface := by
  have wanted : ¬ desired.eraseDups.isEmpty = true :=
    mt (fun none => eraseDups_eq_nil_iff.1 (List.isEmpty_iff.1 none)) some
  have present : roster.lists.contains interface = true := listed
  by_cases large : roster.capacity < desired.eraseDups.length
  · rw [assign_of_large access interface large]
    exact Run.isQuiet_silent ..
  · rw [assign, if_neg large, if_neg wanted, ensure, if_pos present]
    apply isQuiet_andThen (Run.isQuiet_silent roster interface (.ok ()))
    exact isQuiet_exchange access listed _ _ fun _ => Run.isQuiet_silent ..

omit [DecidableEq Server] [ToString Server] in
theorem isEpisode_ensure (grouped : roster.multicast = true) (access : GroupAccess)
    (interface : String) : (roster.ensure access interface).IsEpisode roster interface := by
  rw [ensure]
  split
  · exact (Run.isQuiet_silent ..).isEpisode
  · rename_i missing
    refine isEpisode_create grouped access ?_
    simpa [Table.contains, list?] using missing

omit [DecidableEq Server] [ToString Server] in
theorem hasList_ensure {access : GroupAccess}
    (done : (roster.ensure access interface).result = .ok ()) :
    (roster.ensure access interface).roster.hasList interface = true := by
  rw [ensure] at done ⊢
  split at done
  · rename_i present
    rw [if_pos present]
    exact present
  · rename_i missing
    rw [if_neg missing]
    rcases create_cases roster access interface with ⟨fault, failed, _⟩ | ⟨_, _, created⟩
    · cases done.symm.trans failed
    · rw [created]
      exact hasList_of_list? (Table.get?_put_self _ _ _)

theorem isEpisode_assign (grouped : roster.multicast = true) (access : GroupAccess)
    (interface : String) (desired : List Server) :
    (roster.assign access interface desired).IsEpisode roster interface := by
  rw [assign]
  split
  · exact (Run.isQuiet_silent ..).isEpisode
  · split
    · exact isEpisode_andThen (isEpisode_removeAll grouped access interface _)
        fun _ => Run.isQuiet_silent ..
    · apply isEpisode_andThen (isEpisode_ensure grouped access interface)
      intro done
      exact isQuiet_exchange access (hasList_ensure done) _ _ fun _ => Run.isQuiet_silent ..

/-! ## Calls -/

theorem Sound.isEpisode_call (sound : roster.Sound) (grouped : roster.multicast = true)
    (access : GroupAccess) (operation : Operation Server) :
    (roster.call access operation).IsEpisode roster operation.interface := by
  cases operation with
  | add interface server => exact isEpisode_add grouped access interface server
  | remove interface server => exact isEpisode_remove grouped access interface server
  | clear interface => exact sound.isEpisode_clear grouped access interface
  | assign interface desired => exact isEpisode_assign grouped access interface desired

/-- Each call is an episode for every interface, a quiet one for those that it is not
about. -/
theorem Sound.episode_call (sound : roster.Sound) (grouped : roster.multicast = true)
    (access : GroupAccess) (operation : Operation Server) (interface : String) :
    Episode interface (roster.hasList interface)
      ((roster.perform access operation).hasList interface)
      (eventsOf interface (roster.call access operation).events) := by
  have episode := sound.isEpisode_call grouped access operation
  rw [Run.IsEpisode, roster_call] at episode
  rw [eventsOf_of_interface_eq episode.interface_eq]
  by_cases own : interface = operation.interface
  · rw [if_pos own, own]
    exact episode
  · have same : (roster.perform access operation).hasList interface = roster.hasList interface := by
      rw [hasList, (changes_perform roster access operation).sameElsewhere.others own, hasList]
    rw [if_neg own, same]
    exact .quiet _

/-! ## Taking turns -/

/-- The turns alternate and begin with a join.  The last one is a join exactly if the
interface has a list. -/
structure Alternate (turns : List Turn) (has : Bool) : Prop where
  chain : turns.IsChain (· ≠ ·)
  first : turns.head? ≠ some .leave
  last : turns.getLast? = some .join ↔ has = true

theorem Alternate.join {turns : List Turn} (alternate : Alternate turns false) :
    Alternate (turns ++ [.join]) true := by
  have notLast : turns.getLast? ≠ some .join := by
    simp [alternate.last]
  constructor
  case chain =>
    rw [List.isChain_append]
    refine ⟨alternate.chain, .singleton _, ?_⟩
    intro last isLast next isNext same
    simp only [List.head?_cons, Option.mem_some] at isNext
    rw [same, ← isNext] at isLast
    exact notLast isLast
  case first =>
    have first := alternate.first
    cases turns <;> simp_all
  case last => simp

theorem Alternate.leave {turns : List Turn} (alternate : Alternate turns true) :
    Alternate (turns ++ [.leave]) false := by
  have isLast : turns.getLast? = some .join := alternate.last.2 rfl
  constructor
  case chain =>
    rw [List.isChain_append]
    refine ⟨alternate.chain, .singleton _, ?_⟩
    intro last found next isNext same
    simp only [List.head?_cons, Option.mem_some] at isNext
    rw [same, ← isNext, isLast] at found
    cases found
  case first =>
    have first := alternate.first
    cases turns with
    | nil => cases isLast
    | cons turn rest => simpa using first
  case last => simp

/-- An episode takes its turn. -/
theorem Alternate.episode {turns : List Turn} (alternate : Alternate turns had)
    (episode : Episode interface had has events) :
    Alternate (turns ++ events.filterMap turn?) has := by
  cases episode with
  | quiet => simpa using alternate
  | refused reason =>
      have noTurn : [GroupEvent.joinRefused interface reason].filterMap turn? = [] := rfl
      rw [noTurn, List.append_nil]
      exact alternate
  | joined => exact alternate.join
  | left => exact alternate.leave
  | leaveRefused reason => exact alternate.leave

/-! ## Histories -/

/-- What happens in a history. -/
def log (roster : Roster Server) : List (GroupAccess × Operation Server) → List GroupEvent
  | [] => []
  | (access, operation) :: rest =>
      (roster.call access operation).events ++ (roster.perform access operation).log rest

theorem multicast_perform (roster : Roster Server) (access : GroupAccess)
    (operation : Operation Server) :
    (roster.perform access operation).multicast = roster.multicast :=
  (changes_perform roster access operation).sameElsewhere.multicast

theorem multicast_after (roster : Roster Server) (calls : List (GroupAccess × Operation Server)) :
    (roster.after calls).multicast = roster.multicast := by
  induction calls generalizing roster with
  | nil => rfl
  | cons call rest ih => exact (ih _).trans (multicast_perform roster call.1 call.2)

/-- A history goes on taking turns where others have left off. -/
theorem Sound.alternate_log (sound : roster.Sound) (grouped : roster.multicast = true)
    {earlier : List Turn} (alternate : Alternate earlier (roster.hasList interface))
    (calls : List (GroupAccess × Operation Server)) :
    Alternate (earlier ++ turns interface (roster.log calls))
      ((roster.after calls).hasList interface) := by
  induction calls generalizing roster earlier with
  | nil =>
      rw [log, turns, eventsOf, List.filter_nil, List.filterMap_nil, List.append_nil]
      exact alternate
  | cons call rest ih =>
      have next := alternate.episode (sound.episode_call grouped call.1 call.2 interface)
      have stillGrouped := (multicast_perform roster call.1 call.2).trans grouped
      rw [log, turns_append, ← List.append_assoc]
      exact ih (sound.perform call.1 call.2) stillGrouped next

/-- In any history of a roster with a group, whatever the group answers: the granted joins
of an interface and the calls to leave alternate, beginning with a join, and the interface
has a list exactly if the last of them is a join.  The next call is an episode: a join is
tried only without a list, and the group is left together with the list.  Bringing a list in
line with some servers is quiet. -/
theorem alternate_of_history (capacity : Nat) (calls : List (GroupAccess × Operation Server))
    (interface : String) :
    let start : Roster Server := empty capacity true
    let roster := start.after calls
    let membership := turns interface (start.log calls)
    membership.IsChain (· ≠ ·) ∧
      membership.head? ≠ some .leave ∧
      (membership.getLast? = some .join ↔ (roster.list? interface).isSome) ∧
      (∀ access operation, Episode interface (roster.list? interface).isSome
        ((roster.call access operation).roster.list? interface).isSome
        (eventsOf interface (roster.call access operation).events)) ∧
      ∀ access desired, roster.list? interface ≠ none → desired ≠ [] →
        (roster.assign access interface desired).events = [] := by
  intro start roster membership
  have sound : start.Sound := sound_empty capacity true
  have fresh : Alternate [] (start.hasList interface) :=
    ⟨.nil, nofun, by simp [start, hasList, list?, empty]⟩
  have alternate : Alternate membership (roster.hasList interface) :=
    sound.alternate_log rfl fresh calls
  have grouped : roster.multicast = true := multicast_after start calls
  refine ⟨alternate.chain, alternate.first, alternate.last, ?_, ?_⟩
  · intro access operation
    rw [roster_call]
    exact (sound.after calls).episode_call grouped access operation interface
  · intro access desired present some
    have listed : roster.hasList interface = true := Option.isSome_iff_ne_none.2 present
    exact (isQuiet_assign access listed some).silent

end Roster

end DhcpRelay
