import DhcpRelay.Proofs.Servers.History
import DhcpRelay.Servers.Basic

/-!
# What bringing an interface in line changes

`assign` reports the servers that it added and those that it removed.  The report, the list
before and the list afterwards belong together: what was added stands at the end of the new
list, what was removed is gone, and the records count one interface more or less for them.
-/

namespace DhcpRelay.Roster

variable {Server : Type} [DecidableEq Server] {roster before after : Roster Server}
  {interface : String} {server : Server} {servers : List Server}

/-! ## The order of new servers -/

/-- Without repetitions, servers stand in the order in which they are named first. -/
theorem pairwise_eraseDups (servers : List Server) :
    servers.eraseDups.Pairwise fun left right => servers.idxOf left < servers.idxOf right := by
  induction servers using List.reverseRecOn with
  | nil => simp
  | append_singleton front last ih =>
      have earlier : ∀ server ∈ front, (front ++ [last]).idxOf server = front.idxOf server := by
        intro server member
        exact List.idxOf_append_of_mem member
      have behind : ([last].removeAll front).eraseDups = if last ∈ front then [] else [last] := by
        by_cases named : last ∈ front
        · simp [List.removeAll, named]
        · have single : [last].eraseDups = [last] := by rw [List.eraseDups_cons]; rfl
          simp [List.removeAll, named, single]
      rw [List.eraseDups_append, behind, List.pairwise_append]
      refine ⟨?_, ?_, ?_⟩
      · apply ih.imp_of_mem
        intro left right leftMember rightMember before
        rw [List.mem_eraseDups] at leftMember rightMember
        rwa [earlier left leftMember, earlier right rightMember]
      · split <;> simp
      · intro left leftMember right rightMember
        have new : last ∉ front ∧ right = last := by
          simpa using rightMember
        rw [List.mem_eraseDups] at leftMember
        rw [earlier left leftMember, new.2, List.idxOf_append, if_neg new.1]
        exact Nat.lt_of_lt_of_le (List.idxOf_lt_length_of_mem leftMember) (Nat.le_add_left _ _)

/-! ## Listings and records -/

/-- A server is listed by one interface or not, and besides that by others. -/
theorem listings_eq (roster : Roster Server) (interface : String) (server : Server) :
    roster.listings server =
      (roster.lists.erase interface).tally (fun servers => server ∈ servers) +
        if server ∈ roster.serversOf interface then 1 else 0 := by
  cases listed : roster.list? interface with
  | none =>
      have absent : roster.lists.get? interface = none := listed
      simp [listings, Table.erase_eq_self absent, serversOf_of_list?_none listed]
  | some servers =>
      have counted := Table.tally_erase listed fun servers => decide (server ∈ servers)
      rw [listings, ← counted, serversOf_of_list? listed]
      by_cases member : server ∈ servers <;> simp [member]

/-- A change of the list of one interface changes the listings of a server by what that
list held before and what it holds afterwards. -/
theorem SameElsewhere.listings (frame : SameElsewhere interface before after) (server : Server) :
    after.listings server + (if server ∈ before.serversOf interface then 1 else 0) =
      before.listings server + if server ∈ after.serversOf interface then 1 else 0 := by
  have others : ∀ other,
      (after.lists.erase interface).get? other = (before.lists.erase interface).get? other := by
    intro other
    rw [Table.get?_erase, Table.get?_erase]
    by_cases same : other = interface
    · rw [if_pos same, if_pos same]
    · rw [if_neg same, if_neg same]
      exact frame.others same
  rw [listings_eq after interface, listings_eq before interface, Table.tally_congr others]
  exact Nat.add_right_comm _ _ _

/-! ## The report -/

/-- A report on bringing an interface in line with some servers, and what became of the
roster. -/
structure Reports (interface : String) (desired : List Server) (report : Difference Server)
    (before after : Roster Server) : Prop where
  /-- The interface lists the desired servers, each of them once. -/
  listed : ∀ server, server ∈ after.serversOf interface ↔ server ∈ desired
  nodup : (after.serversOf interface).Nodup
  present : (after.list? interface).isSome ↔ desired ≠ []
  /-- The new ones are added in the order in which they are named first. -/
  mem_added : ∀ server,
    server ∈ report.added ↔ server ∈ desired ∧ server ∉ before.serversOf interface
  ordered : report.added.Pairwise fun left right => desired.idxOf left < desired.idxOf right
  removed : report.removed = (before.serversOf interface).filter (· ∉ desired)
  /-- What stays listed stands in front of what is added, in any order, but in the same one
  if nothing goes. -/
  tail : ∃ kept, kept.Perm ((before.serversOf interface).filter (· ∈ desired)) ∧
    after.serversOf interface = kept ++ report.added
  front : report.removed = [] → before.serversOf interface <+: after.serversOf interface
  others : ∀ other, other ≠ interface → after.list? other = before.list? other
  counted : ∀ server,
    (after.count? server).getD 0 + (if server ∈ report.removed then 1 else 0) =
      (before.count? server).getD 0 + if server ∈ report.added then 1 else 0

theorem mem_added_difference {current desired : List Server} :
    server ∈ (difference current desired).added ↔ server ∈ desired ∧ server ∉ current := by
  simp [difference]

theorem removed_difference (current desired : List Server) :
    (difference current desired).removed = current.filter (· ∉ desired) := by
  simp [difference]

theorem pairwise_added_difference (current desired : List Server) :
    (difference current desired).added.Pairwise fun left right =>
      desired.idxOf left < desired.idxOf right :=
  (pairwise_eraseDups desired).filter _

/-- The servers that stay are those of the list before that are desired. -/
theorem kept_perm (nodup : servers.Nodup) (desired : List Server) :
    (takeOff servers (difference servers desired).removed).Perm
      (servers.filter (· ∈ desired)) := by
  have subset : ∀ server ∈ (difference servers desired).removed, server ∈ servers := by
    intro server member
    exact (List.mem_filter.1 member).1
  have kept : (takeOff servers (difference servers desired).removed).Nodup :=
    nodup_takeOff nodup (nodup.filter _) subset
  rw [List.perm_ext_iff_of_nodup kept (nodup.filter _)]
  intro server
  simp only [difference, mem_kept nodup, List.mem_filter, decide_eq_true_eq]

/-- The records follow the lists. -/
theorem Sound.counted_of_listed {desired : List Server} (sound : before.Sound)
    (afterSound : after.Sound) (frame : SameElsewhere interface before after)
    (listed : ∀ server, server ∈ after.serversOf interface ↔ server ∈ desired)
    (server : Server) :
    let report := difference (before.serversOf interface) desired
    (after.count? server).getD 0 + (if server ∈ report.removed then 1 else 0) =
      (before.count? server).getD 0 + if server ∈ report.added then 1 else 0 := by
  intro report
  have changed := frame.listings server
  rw [sound.counted, afterSound.counted]
  simp only [listed server] at changed
  simp only [report, removed_difference, List.mem_filter, mem_added_difference, decide_eq_true_eq]
  by_cases had : server ∈ before.serversOf interface <;> by_cases wanted : server ∈ desired <;>
    simp_all

variable [ToString Server]

/-- An interface that was brought in line is as reported. -/
theorem Sound.reports_of_assign {desired : List Server} {access : GroupAccess}
    {report : Difference Server} (sound : roster.Sound)
    (done : (roster.assign access interface desired).result = .ok report) :
    Reports interface desired report roster (roster.assign access interface desired).roster := by
  have nodup := sound.nodup_serversOf interface
  have frame := (changes_assign roster access interface desired).sameElsewhere
  rcases assign_cases sound access interface desired with
    ⟨result, list, left⟩ | ⟨_, same⟩ | ⟨_, _, same⟩
  · have reported : report = difference (roster.serversOf interface) desired :=
      Except.ok.inj (done.symm.trans result)
    subst reported
    have listed : ∀ server, server ∈ (roster.assign access interface desired).roster.serversOf
        interface ↔ server ∈ desired := by
      intro server
      rw [list]
      exact mem_aligned nodup
    constructor
    case listed => exact listed
    case nodup =>
      rw [list]
      exact nodup_aligned nodup desired
    case present =>
      rw [left.list?_eq]
      have bare : (roster.assign access interface desired).roster.serversOf interface = [] ↔
          desired = [] := by
        simp only [List.eq_nil_iff_forall_not_mem, listed]
      rw [ne_eq, ← bare]
      split <;> simp_all
    case mem_added => exact fun _ => mem_added_difference
    case ordered => exact pairwise_added_difference _ desired
    case removed => exact removed_difference _ desired
    case tail => exact ⟨_, kept_perm nodup desired, list⟩
    case front =>
      intro none
      have whole : takeOff (roster.serversOf interface)
          (difference (roster.serversOf interface) desired).removed =
            roster.serversOf interface := by
        rw [none]
        rfl
      rw [list]
      exact ⟨_, congrArg (· ++ _) whole.symm⟩
    case others => exact fun _ different => frame.others different
    case counted => exact sound.counted_of_listed left frame listed
  · rw [same] at done
    cases done
  · rw [same] at done
    cases done

/-- In every state that a history leads to, an interface that was brought in line with some
servers lists these, and the report says how the list and the records came about. -/
theorem reports_of_history {capacity : Nat} {multicast : Bool}
    {calls : List (GroupAccess × Operation Server)} {access : GroupAccess} {interface : String}
    {desired : List Server} {report : Difference Server}
    (done : (((empty capacity multicast).after calls).assign access interface desired).result =
      .ok report) :
    let roster := (empty capacity multicast : Roster Server).after calls
    Reports interface desired report roster
      (roster.assign access interface desired).roster := by
  intro roster
  have sound : roster.Sound := (sound_empty capacity multicast).after calls
  exact sound.reports_of_assign done

/-- Two of four servers are exchanged for two others, one of which is named twice.  One of
those that go is still listed by another interface. -/
theorem reports_of_history_exchange :
    let server (last : UInt8) := Server4.dhcp ⟨10, 0, 0, last⟩
    let granting : GroupAccess := ⟨fun _ => none, fun _ => none⟩
    let roster := (empty 4 true : Roster Server4).after
      [(granting, .add "eth0" (server 1)),
        (granting, .assign "eth1" [server 1, server 2, server 3, server 4])]
    let desired := [server 4, server 5, server 2, server 5, server 6]
    let report : Difference Server4 := ⟨[server 5, server 6], [server 1, server 3]⟩
    let exchange := roster.assign granting "eth1" desired
    exchange.result = .ok report ∧
      exchange.roster.list? "eth1" = some [server 4, server 2, server 5, server 6] ∧
      exchange.roster.count? (server 1) = some 1 ∧
      Reports "eth1" desired report roster exchange.roster := by
  intro server granting roster desired report exchange
  have done : exchange.result = .ok report := by decide +kernel
  have list : exchange.roster.list? "eth1" = some [server 4, server 2, server 5, server 6] := by
    decide +kernel
  have counted : exchange.roster.count? (server 1) = some 1 := by decide +kernel
  exact ⟨done, list, counted, reports_of_history done⟩

end DhcpRelay.Roster
