import DhcpRelay.Proofs.Servers.Change

/-!
# Lists and records agree

The record of a server counts the interfaces that list it.  While an operation is
under way an interface may have an empty list; between operations none has.
-/

namespace DhcpRelay.Roster

variable {Server : Type} [DecidableEq Server]

/-- The number of interfaces that list a server. -/
def listings (roster : Roster Server) (server : Server) : Nat :=
  roster.lists.tally fun servers => server ∈ servers

/-- Lists and records agree. -/
structure Consistent (roster : Roster Server) : Prop where
  nodup : ∀ {interface servers}, roster.list? interface = some servers → servers.Nodup
  short : ∀ {interface servers}, roster.list? interface = some servers →
    servers.length ≤ roster.capacity
  counted : ∀ server, (roster.count? server).getD 0 = roster.listings server
  positive : ∀ server, roster.count? server ≠ some 0

/-- A roster between operations. -/
structure Sound (roster : Roster Server) : Prop extends roster.Consistent where
  nonempty : ∀ interface, roster.list? interface ≠ some []

variable {roster before after : Roster Server} {interface : String}

theorem sound_empty (capacity : Nat) (multicast : Bool) :
    (empty capacity multicast : Roster Server).Sound where
  nodup := nofun
  short := nofun
  counted _ := rfl
  positive _ := nofun
  nonempty _ := nofun

theorem Sound.ne_nil (sound : roster.Sound) {servers : List Server}
    (listed : roster.list? interface = some servers) : servers ≠ [] := by
  intro equal
  subst equal
  exact sound.nonempty interface listed

/-! ## Records -/

theorem count?_addRecord (server other : Server) :
    (roster.addRecord server).count? other =
      if other = server then some ((roster.count? server).getD 0 + 1)
      else roster.count? other :=
  Table.get?_put roster.records server other _

theorem count?_dropRecord {server : Server} {count : Nat}
    (counted : roster.count? server = some (count + 1)) (other : Server) :
    (roster.dropRecord server).count? other =
      if other = server then (if count = 0 then none else some count)
      else roster.count? other := by
  have found : roster.records.get? server = some (count + 1) := counted
  simp only [dropRecord, found, Nat.add_sub_cancel]
  by_cases last : count = 0
  · simp only [if_pos last]
    exact Table.get?_erase roster.records server other
  · simp only [if_neg last]
    exact Table.get?_put roster.records server other count

namespace Consistent

/-- A server has a record exactly if some interface lists it. -/
theorem count?_eq (consistent : roster.Consistent) (server : Server) :
    roster.count? server =
      if roster.listings server = 0 then none else some (roster.listings server) := by
  have counted := consistent.counted server
  have positive := consistent.positive server
  cases recorded : roster.count? server with
  | none =>
      rw [recorded] at counted
      have none : roster.listings server = 0 := counted.symm
      rw [if_pos none]
  | some count =>
      rw [recorded] at counted positive
      have equal : count = roster.listings server := counted
      have some : roster.listings server ≠ 0 := by
        rw [← equal]
        intro equal
        subst equal
        exact positive rfl
      rw [if_neg some, equal]

/-- The record of a server that is listed can be counted down. -/
theorem exists_count?_eq_succ (consistent : roster.Consistent) {servers : List Server}
    {server : Server} (listed : roster.list? interface = some servers)
    (member : server ∈ servers) : ∃ count, roster.count? server = some (count + 1) := by
  have some : 0 < roster.listings server :=
    Table.tally_pos_iff.2 ⟨interface, servers, listed, decide_eq_true member⟩
  refine ⟨roster.listings server - 1, ?_⟩
  rw [consistent.count?_eq, if_neg (Nat.ne_of_gt some), Nat.sub_add_cancel some]

/-- Consistency after a change of one list, in terms of the servers whose listings
change. -/
theorem of_put (consistent : before.Consistent) {servers : List Server}
    (frame : SameElsewhere interface before after)
    (listed : after.list? interface = some servers) (nodup : servers.Nodup)
    (short : servers.length ≤ before.capacity)
    (counted : ∀ server, (after.count? server).getD 0 = after.listings server)
    (positive : ∀ server, after.count? server ≠ some 0) : after.Consistent where
  nodup {other found} stored := by
    by_cases same : other = interface
    · rw [same, listed, Option.some.injEq] at stored
      exact stored ▸ nodup
    · rw [frame.others same] at stored
      exact consistent.nodup stored
  short {other found} stored := by
    rw [frame.capacity]
    by_cases same : other = interface
    · rw [same, listed, Option.some.injEq] at stored
      exact stored ▸ short
    · rw [frame.others same] at stored
      exact consistent.short stored
  counted := counted
  positive := positive

theorem create (consistent : roster.Consistent) (absent : roster.list? interface = none) :
    Consistent { roster with lists := roster.lists.put interface [] } := by
  have frame : SameElsewhere interface roster
      { roster with lists := roster.lists.put interface [] } :=
    ⟨rfl, rfl, fun different => Table.get?_put_of_ne _ _ different⟩
  refine consistent.of_put frame (Table.get?_put_self _ _ _) List.nodup_nil (Nat.zero_le _)
    (fun server => ?_) consistent.positive
  have same : listings { roster with lists := roster.lists.put interface [] } server =
      roster.listings server := by
    have counted := Table.tally_put_of_get?_none absent []
      (fun servers => decide (server ∈ servers))
    simpa [listings] using counted
  rw [same]
  exact consistent.counted server

theorem link (consistent : roster.Consistent) {servers : List Server} {server : Server}
    (listed : roster.list? interface = some servers) (fresh : server ∉ servers)
    (short : servers.length < roster.capacity) : (roster.link interface server).Consistent := by
  have frame := (Change.link listed fresh short).sameElsewhere
  have records (other : Server) : (roster.link interface server).count? other =
      if other = server then some ((roster.count? server).getD 0 + 1)
      else roster.count? other := by
    rw [link_eq listed]
    exact count?_addRecord server other
  have counts (other : Server) : (roster.link interface server).listings other =
      roster.listings other + if other = server then 1 else 0 := by
    have counted := Table.tally_put_of_get? listed (servers ++ [server])
      (fun servers => decide (other ∈ servers))
    rw [link_eq listed]
    by_cases same : other = server
    · subst same
      simpa [listings, fresh] using counted
    · simpa [listings, same] using counted
  have stored : (roster.link interface server).list? interface = some (servers ++ [server]) := by
    rw [link_eq listed]
    exact Table.get?_put_self _ _ _
  refine consistent.of_put frame stored ?_ ?_ ?_ ?_
  · rw [← List.concat_eq_append]
    exact (consistent.nodup listed).concat fresh
  · rw [List.length_append]
    exact short
  · intro other
    rw [records, counts]
    by_cases same : other = server
    · rw [if_pos same, if_pos same, same, consistent.counted]
      rfl
    · rw [if_neg same, if_neg same, consistent.counted]
      rfl
  · intro other
    rw [records]
    by_cases same : other = server
    · rw [if_pos same]
      simp
    · rw [if_neg same]
      exact consistent.positive other

theorem unlink (consistent : roster.Consistent) {servers : List Server} {server : Server}
    (listed : roster.list? interface = some servers) (member : server ∈ servers) :
    (roster.unlinked interface server).Consistent := by
  have frame := (Change.unlink listed member).sameElsewhere
  have present : roster.serversOf interface = servers := by
    rw [serversOf, listed]
    rfl
  have nodup := consistent.nodup listed
  rcases consistent.exists_count?_eq_succ listed member with ⟨count, recorded⟩
  have records (other : Server) : (roster.unlinked interface server).count? other =
      if other = server then (if count = 0 then none else some count)
      else roster.count? other := by
    rw [unlinked]
    exact count?_dropRecord (by exact recorded) other
  have counts (other : Server) : (roster.unlinked interface server).listings other +
      (if other = server then 1 else 0) = roster.listings other := by
    have counted := Table.tally_put_of_get? listed (swapRemove server servers)
      (fun servers => decide (other ∈ servers))
    simp only [mem_swapRemove member nodup] at counted
    simp only [listings, unlinked, lists_dropRecord, present]
    by_cases same : other = server
    · subst same
      simpa [member] using counted
    · simpa [same] using counted
  have stored : (roster.unlinked interface server).list? interface =
      some (swapRemove server servers) := by
    rw [unlinked, list?_dropRecord, present]
    exact Table.get?_put_self _ _ _
  refine consistent.of_put frame stored (nodup_swapRemove member nodup) ?_ ?_ ?_
  · rw [length_swapRemove member]
    exact Nat.le_trans (Nat.sub_le _ _) (consistent.short listed)
  · intro other
    have before := consistent.counted other
    have after := counts other
    rw [records]
    by_cases same : other = server
    · subst same
      rw [recorded] at before
      rw [if_pos rfl] at after ⊢
      have down : count = (roster.unlinked interface other).listings other := by
        simp only [Option.getD_some] at before
        omega
      by_cases last : count = 0
      · rw [if_pos last, ← down, last]
        rfl
      · rw [if_neg last, ← down]
        rfl
    · rw [if_neg same] at after ⊢
      exact before.trans after.symm
  · intro other
    rw [records]
    by_cases same : other = server
    · rw [if_pos same]
      by_cases last : count = 0
      · simp [last]
      · simp [last]
    · rw [if_neg same]
      exact consistent.positive other

theorem delete (consistent : roster.Consistent) (empty : roster.list? interface = some []) :
    Consistent { roster with lists := roster.lists.erase interface } where
  nodup stored := consistent.nodup (Table.get?_eq_of_get?_erase stored)
  short stored := consistent.short (Table.get?_eq_of_get?_erase stored)
  counted server := by
    have counted := Table.tally_erase empty fun servers => decide (server ∈ servers)
    have same : listings { roster with lists := roster.lists.erase interface } server =
        roster.listings server := by
      simpa [listings] using counted
    rw [same]
    exact consistent.counted server
  positive := consistent.positive

end Consistent

theorem Change.consistent (change : Change interface before after)
    (consistent : before.Consistent) : after.Consistent := by
  cases change with
  | create absent roomy => exact consistent.create absent
  | link listed fresh short => exact consistent.link listed fresh short
  | unlink listed member => exact consistent.unlink listed member
  | delete empty => exact consistent.delete empty

theorem Changes.consistent (changes : Changes interface before after)
    (consistent : before.Consistent) : after.Consistent := by
  induction changes with
  | refl => exact consistent
  | tail earlier change ih => exact change.consistent ih

/-- Changes at an interface that end with no empty list there. -/
theorem Changes.sound (changes : Changes interface before after) (sound : before.Sound)
    (nonempty : after.list? interface ≠ some []) : after.Sound where
  toConsistent := changes.consistent sound.toConsistent
  nonempty other := by
    by_cases same : other = interface
    · rw [same]
      exact nonempty
    · rw [changes.sameElsewhere.others same]
      exact sound.nonempty other

end DhcpRelay.Roster
