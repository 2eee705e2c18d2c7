import DhcpRelay.Proofs.Servers.Operations
import Mathlib.Data.Finset.Card

/-!
# Bringing an interface in line

`assign` either fails at once or carries through: the interface then lists the
desired servers, those that it listed before in front of the new ones.
-/

namespace DhcpRelay.Roster

variable {Server : Type} [DecidableEq Server] {roster : Roster Server} {interface : String}
  {server : Server} {servers : List Server}

/-! ## Repetitions -/

theorem nodup_eraseDups (servers : List Server) : servers.eraseDups.Nodup := by
  cases servers with
  | nil => exact List.nodup_nil
  | cons server rest =>
      rw [List.eraseDups_cons, List.nodup_cons]
      refine ⟨?_, nodup_eraseDups _⟩
      simp
termination_by servers.length
decreasing_by
  have shorter := List.length_filter_le (fun other => !other == server) rest
  simp only [List.length_cons]
  omega

theorem eraseDups_eq_nil_iff : servers.eraseDups = [] ↔ servers = [] := by
  simp only [List.eq_nil_iff_forall_not_mem, List.mem_eraseDups]

/-- The number of different servers in a list. -/
theorem card_toFinset_eq (servers : List Server) :
    servers.toFinset.card = servers.eraseDups.length := by
  have same : servers.toFinset = servers.eraseDups.toFinset := by
    ext server
    simp
  rw [same, List.toFinset_card_of_nodup (nodup_eraseDups servers)]

/-! ## The list of an interface in line -/

/-- What an interface lists after it was brought in line. -/
def aligned (current desired : List Server) : List Server :=
  takeOff current (current.filter (· ∉ desired.eraseDups)) ++
    desired.eraseDups.filter (· ∉ current)

/-- What bringing an interface in line changes. -/
def difference (current desired : List Server) : Difference Server :=
  ⟨desired.eraseDups.filter (· ∉ current), current.filter (· ∉ desired.eraseDups)⟩

theorem mem_kept (nodup : servers.Nodup) (desired : List Server) :
    server ∈ takeOff servers (servers.filter (· ∉ desired.eraseDups)) ↔
      server ∈ servers ∧ server ∈ desired := by
  rw [mem_takeOff nodup (nodup.filter _) fun _ member => (List.mem_filter.1 member).1]
  simp only [List.mem_filter, List.mem_eraseDups, decide_not, Bool.not_eq_eq_eq_not,
    Bool.not_true, decide_eq_false_iff_not, not_and, not_not]
  constructor
  · intro kept
    rcases kept with ⟨listed, wanted⟩
    exact ⟨listed, wanted listed⟩
  · intro both
    rcases both with ⟨listed, wanted⟩
    exact ⟨listed, fun _ => wanted⟩

theorem mem_aligned (nodup : servers.Nodup) {desired : List Server} :
    server ∈ aligned servers desired ↔ server ∈ desired := by
  rw [aligned, List.mem_append, mem_kept nodup]
  by_cases listed : server ∈ servers <;> simp [listed]

theorem nodup_aligned (nodup : servers.Nodup) (desired : List Server) :
    (aligned servers desired).Nodup := by
  rw [aligned, List.nodup_append]
  refine ⟨nodup_takeOff nodup (nodup.filter _) fun _ member => (List.mem_filter.1 member).1,
    (nodup_eraseDups desired).filter _, ?_⟩
  intro kept before added behind same
  subst same
  have listed := ((mem_kept nodup desired).1 before).1
  simp [listed] at behind

theorem length_aligned (nodup : servers.Nodup) (desired : List Server) :
    (aligned servers desired).length = desired.eraseDups.length := by
  have same : (aligned servers desired).Perm desired.eraseDups := by
    rw [List.perm_ext_iff_of_nodup (nodup_aligned nodup desired) (nodup_eraseDups desired)]
    intro server
    rw [mem_aligned nodup, List.mem_eraseDups]
  exact same.length_eq

/-! ## Adding several servers -/

theorem changes_addAll (roster : Roster Server) (access : GroupAccess) (interface : String)
    (servers : List Server) :
    Changes interface roster (roster.addAll access interface servers).roster := by
  induction servers generalizing roster with
  | nil => exact .refl roster
  | cons server rest ih =>
      have first := changes_add roster access interface server
      rw [addAll]
      dsimp only
      split
      · exact first
      · exact first.trans (ih _)

/-- New servers go to the end of a list that has room for all of them. -/
theorem addAll_of_not_mem {added : List Server} (access : GroupAccess)
    (listed : roster.list? interface = some servers) (nodup : (servers ++ added).Nodup)
    (short : (servers ++ added).length ≤ roster.capacity) :
    (roster.addAll access interface added).result = .ok () ∧
      (roster.addAll access interface added).roster.list? interface = some (servers ++ added) := by
  induction added generalizing roster servers with
  | nil =>
      rw [List.append_nil]
      exact ⟨rfl, listed⟩
  | cons server rest ih =>
      have fresh : server ∉ servers := by
        intro member
        exact (List.nodup_append.1 nodup).2.2 server member server List.mem_cons_self rfl
      have room : servers.length < roster.capacity := by
        rw [List.length_append, List.length_cons] at short
        omega
      have linked := list?_link listed server
      have capacity := (Change.link listed fresh room).sameElsewhere.capacity
      rw [List.append_cons] at nodup short ⊢
      rw [← capacity] at short
      rw [addAll, add_of_not_mem access listed fresh room]
      exact ih linked nodup short

/-! ## One thing after another -/

section

variable {Result : Type} {run : Run Server (Except RosterFault Unit)}

omit [DecidableEq Server] in
theorem andThen_of_ok (done : run.result = .ok ())
    (next : Roster Server → Run Server (Except RosterFault Result)) :
    (run.andThen next).result = (next run.roster).result ∧
      (run.andThen next).roster = (next run.roster).roster := by
  rw [Run.andThen, done]
  exact ⟨rfl, rfl⟩

omit [DecidableEq Server] in
theorem andThen_of_error {fault : RosterFault} (failed : run.result = .error fault)
    (next : Roster Server → Run Server (Except RosterFault Result)) :
    run.andThen next = ⟨.error fault, run.roster, run.events⟩ := by
  rw [Run.andThen, failed]

theorem changes_andThen (first : Changes interface roster run.roster)
    {next : Roster Server → Run Server (Except RosterFault Result)}
    (later : ∀ roster, Changes interface roster (next roster).roster) :
    Changes interface roster (run.andThen next).roster := by
  cases result : run.result with
  | error fault =>
      rw [andThen_of_error result]
      exact first
  | ok =>
      rw [(andThen_of_ok result next).2]
      exact first.trans (later _)

end

/-! ## Bringing in line -/

theorem changes_ensure (roster : Roster Server) (access : GroupAccess) (interface : String) :
    Changes interface roster (roster.ensure access interface).roster := by
  rw [ensure]
  split
  · exact .refl roster
  · rename_i missing
    refine changes_create access ?_
    simpa [Table.contains, list?] using missing

omit [DecidableEq Server] in
/-- An interface that may join has a list, an empty one if it had none before. -/
theorem ensure_eq_ok (roomy : roster.capacity ≠ 0) {access : GroupAccess}
    (joins : roster.serversOf interface ≠ [] ∨ roster.refusal access interface = none) :
    (roster.ensure access interface).result = .ok () ∧
      (roster.ensure access interface).roster.list? interface =
        some (roster.serversOf interface) := by
  cases listed : roster.list? interface with
  | some servers =>
      have present : roster.lists.contains interface = true := by
        rw [Table.contains]
        exact Option.isSome_iff_exists.2 ⟨servers, listed⟩
      rw [ensure, if_pos present, serversOf_of_list? listed]
      exact ⟨rfl, listed⟩
  | none =>
      have missing : ¬ roster.lists.contains interface = true := by
        rw [Table.contains]
        simpa [list?] using listed
      rw [serversOf_of_list?_none listed] at joins ⊢
      rcases create_of_granted roomy (joins.resolve_left (absurd rfl)) with ⟨result, same⟩
      rw [ensure, if_neg missing, same]
      exact ⟨result, Table.get?_put_self _ _ _⟩

theorem capacity_ne_zero {desired : List Server} (some : desired ≠ [])
    (fits : desired.eraseDups.length ≤ roster.capacity) : roster.capacity ≠ 0 := by
  have length := List.length_pos_iff.2 (mt eraseDups_eq_nil_iff.1 some)
  omega

variable [ToString Server]

theorem changes_assign (roster : Roster Server) (access : GroupAccess) (interface : String)
    (desired : List Server) :
    Changes interface roster (roster.assign access interface desired).roster := by
  unfold assign
  dsimp only
  split
  · exact .refl roster
  · split
    · exact changes_andThen (changes_removeAll ..) Changes.refl
    · refine changes_andThen (changes_ensure ..) fun created => ?_
      refine changes_andThen (changes_unlinkAll ..) fun unlinked => ?_
      exact changes_andThen (changes_addAll ..) Changes.refl

/-- Bringing an interface in line with no servers removes all that it lists. -/
theorem assign_nil_eq (roster : Roster Server) (access : GroupAccess) (interface : String) :
    roster.assign access interface [] =
      (roster.removeAll access interface (roster.serversOf interface)).andThen fun left =>
        ⟨.ok (difference (roster.serversOf interface) []), left, []⟩ := by
  have all : (roster.serversOf interface).filter (· ∉ ([] : List Server).eraseDups) =
      roster.serversOf interface := by
    simp
  have small : ¬ roster.capacity < ([] : List Server).eraseDups.length := Nat.not_lt_zero _
  have none : ([] : List Server).eraseDups.isEmpty = true := rfl
  unfold assign difference
  dsimp only
  rw [all, if_neg small, if_pos none]

/-- Bringing an interface in line with no servers clears it. -/
theorem assign_nil (sound : roster.Sound) (access : GroupAccess) (interface : String) :
    (roster.assign access interface []).result =
        .ok (difference (roster.serversOf interface) []) ∧
      (roster.assign access interface []).roster.serversOf interface = [] ∧
      (roster.assign access interface []).roster.Sound := by
  have nodup := sound.nodup_serversOf interface
  rcases removeAll_of_mem sound access nodup fun _ member => member with ⟨removed, left, list⟩
  rw [takeOff_self nodup] at list
  rw [assign_nil_eq, (andThen_of_ok removed _).1, (andThen_of_ok removed _).2]
  exact ⟨rfl, list, left⟩

/-- Bringing an interface in line with some servers leaves it in the group. -/
theorem assign_of_ne_nil {desired : List Server} (sound : roster.Sound) {access : GroupAccess}
    (some : desired ≠ []) (fits : desired.eraseDups.length ≤ roster.capacity)
    (joins : roster.serversOf interface ≠ [] ∨ roster.refusal access interface = none) :
    (roster.assign access interface desired).result =
        .ok (difference (roster.serversOf interface) desired) ∧
      (roster.assign access interface desired).roster.list? interface =
        .some (aligned (roster.serversOf interface) desired) := by
  have nodup := sound.nodup_serversOf interface
  have wanted : desired.eraseDups ≠ [] := mt eraseDups_eq_nil_iff.1 some
  have roomy := capacity_ne_zero some fits
  -- The three steps of the way, each in the roster that the one before it left.
  rcases ensure_eq_ok roomy joins with ⟨ensured, listed⟩
  rcases unlinkAll_of_mem nodup (nodup.filter (· ∉ desired.eraseDups)) listed
      fun _ member => (List.mem_filter.1 member).1 with ⟨unlinked, kept⟩
  have between := (changes_ensure roster access interface).trans
    (changes_unlinkAll _ interface ((roster.serversOf interface).filter (· ∉ desired.eraseDups)))
  have short : (aligned (roster.serversOf interface) desired).length ≤ roster.capacity := by
    rw [length_aligned nodup]
    exact fits
  rw [← between.sameElsewhere.capacity] at short
  rcases addAll_of_not_mem access kept (nodup_aligned nodup desired) short with ⟨added, list⟩
  unfold assign
  dsimp only
  rw [if_neg (Nat.not_lt.2 fits), if_neg (mt List.isEmpty_iff.1 wanted),
    (andThen_of_ok ensured _).1, (andThen_of_ok ensured _).2, (andThen_of_ok unlinked _).1,
    (andThen_of_ok unlinked _).2, (andThen_of_ok added _).1, (andThen_of_ok added _).2]
  exact ⟨rfl, list⟩

/-- Bringing an interface in line succeeds with servers that fit, unless the interface
has to join the group and is refused. -/
theorem assign_eq_ok {desired : List Server} (sound : roster.Sound) {access : GroupAccess}
    (fits : desired.eraseDups.length ≤ roster.capacity)
    (joins : desired = [] ∨ roster.serversOf interface ≠ [] ∨
      roster.refusal access interface = none) :
    (roster.assign access interface desired).result =
        .ok (difference (roster.serversOf interface) desired) ∧
      (roster.assign access interface desired).roster.serversOf interface =
        aligned (roster.serversOf interface) desired ∧
      (roster.assign access interface desired).roster.Sound := by
  have nodup := sound.nodup_serversOf interface
  cases desired with
  | nil =>
      rcases assign_nil sound access interface with ⟨result, list, left⟩
      have none : aligned (roster.serversOf interface) [] = [] := by
        simp [List.eq_nil_iff_forall_not_mem, mem_aligned nodup]
      rw [none]
      exact ⟨result, list, left⟩
  | cons first rest =>
      have some : first :: rest ≠ [] := List.cons_ne_nil first rest
      rcases assign_of_ne_nil sound some fits (joins.resolve_left some) with ⟨result, list⟩
      refine ⟨result, serversOf_of_list? list, (changes_assign ..).sound sound ?_⟩
      rw [list, ne_eq, Option.some.injEq]
      have member : first ∈ aligned (roster.serversOf interface) (first :: rest) :=
        (mem_aligned nodup).2 List.mem_cons_self
      exact List.ne_nil_of_mem member

theorem assign_of_large (access : GroupAccess) (interface : String) {desired : List Server}
    (large : roster.capacity < desired.eraseDups.length) :
    roster.assign access interface desired =
      ⟨.error (.capacityExceeded interface roster.capacity), roster, []⟩ := by
  unfold assign
  dsimp only
  rw [if_pos large]

/-- A join that is refused leaves everything as it was. -/
theorem assign_of_refused {desired : List Server} {access : GroupAccess} {reason : String}
    (some : desired ≠ []) (fits : desired.eraseDups.length ≤ roster.capacity)
    (absent : roster.list? interface = none)
    (refused : roster.refusal access interface = .some reason) :
    roster.assign access interface desired =
      ⟨.error (.membership interface reason), roster, [.joinRefused interface reason]⟩ := by
  have wanted : desired.eraseDups ≠ [] := mt eraseDups_eq_nil_iff.1 some
  have roomy := capacity_ne_zero some fits
  have missing : ¬ roster.lists.contains interface = true := by
    rw [Table.contains]
    simpa [list?] using absent
  unfold assign
  dsimp only
  rw [if_neg (Nat.not_lt.2 fits), if_neg (mt List.isEmpty_iff.1 wanted), ensure, if_neg missing,
    create_of_refused roomy refused]
  rfl

/-- Bringing an interface in line succeeds, or it fails and nothing changes: with too
many servers, or with a join that is refused. -/
theorem assign_cases (sound : roster.Sound) (access : GroupAccess) (interface : String)
    (desired : List Server) :
    ((roster.assign access interface desired).result =
        .ok (difference (roster.serversOf interface) desired) ∧
      (roster.assign access interface desired).roster.serversOf interface =
        aligned (roster.serversOf interface) desired ∧
      (roster.assign access interface desired).roster.Sound) ∨
    (roster.capacity < desired.eraseDups.length ∧
      roster.assign access interface desired =
        ⟨.error (.capacityExceeded interface roster.capacity), roster, []⟩) ∨
    ∃ reason, roster.refusal access interface = some reason ∧
      roster.assign access interface desired =
        ⟨.error (.membership interface reason), roster, [.joinRefused interface reason]⟩ := by
  by_cases fits : desired.eraseDups.length ≤ roster.capacity
  · by_cases joins : desired = [] ∨ roster.serversOf interface ≠ [] ∨
        roster.refusal access interface = none
    · exact .inl (assign_eq_ok sound fits joins)
    · push Not at joins
      rcases joins with ⟨some, none, refused⟩
      have absent : roster.list? interface = .none := by
        rw [sound.list?_eq, if_pos none]
      rcases Option.ne_none_iff_exists'.1 refused with ⟨reason, refused⟩
      exact .inr (.inr ⟨reason, refused, assign_of_refused some fits absent refused⟩)
  · have large := Nat.not_le.1 fits
    exact .inr (.inl ⟨large, assign_of_large access interface large⟩)

theorem Sound.assign (sound : roster.Sound) (access : GroupAccess) (interface : String)
    (desired : List Server) : (roster.assign access interface desired).roster.Sound := by
  rcases assign_cases sound access interface desired with
    ⟨_, _, left⟩ | ⟨_, same⟩ | ⟨_, _, same⟩
  · exact left
  · rwa [same]
  · rwa [same]

end DhcpRelay.Roster
