import DhcpRelay.Proofs.Servers.History

/-!
# Calls that fail

A call that fails leaves the roster as it was.  Of the group it has asked for a join at
most, and this was refused.
-/

namespace DhcpRelay.Roster

variable {Server Result : Type}

namespace Run

/-- The run ended with a fault. -/
def IsFailure (run : Run Server (Except RosterFault Result)) : Prop :=
  ∃ fault, run.result = .error fault

/-- The run left everything as it was, and the group was neither joined nor left. -/
structure IsWithoutEffect (roster : Roster Server) (interface : String)
    (run : Run Server Result) : Prop where
  unchanged : run.roster = roster
  refused : ∀ event ∈ run.events, ∃ reason, event = .joinRefused interface reason

/-- The run fails exactly under a condition, and if so it is without effect. -/
structure FailsIff (roster : Roster Server) (interface : String) (condition : Prop)
    (run : Run Server (Except RosterFault Result)) : Prop where
  isFailure_iff : run.IsFailure ↔ condition
  isWithoutEffect : run.IsFailure → run.IsWithoutEffect roster interface

end Run

variable {roster : Roster Server} {interface : String} {condition : Prop}
  {run : Run Server (Except RosterFault Result)}

theorem Run.FailsIff.of_ok {result : Result} (done : run.result = .ok result)
    (allowed : ¬ condition) : run.FailsIff roster interface condition := by
  have succeeds : ¬ run.IsFailure := by
    intro failure
    rcases failure with ⟨fault, failed⟩
    cases done.symm.trans failed
  exact ⟨iff_of_false succeeds allowed, fun failure => absurd failure succeeds⟩

theorem Run.FailsIff.of_error {fault : RosterFault} (failed : run.result = .error fault)
    (isWithoutEffect : run.IsWithoutEffect roster interface) (holds : condition) :
    run.FailsIff roster interface condition :=
  ⟨iff_of_true ⟨fault, failed⟩ holds, fun _ => isWithoutEffect⟩

theorem Run.isWithoutEffect_silent (roster : Roster Server) (interface : String)
    (result : Result) :
    (⟨result, roster, []⟩ : Run Server Result).IsWithoutEffect roster interface :=
  ⟨rfl, nofun⟩

theorem Run.isWithoutEffect_refused (roster : Roster Server) (interface reason : String)
    (result : Result) :
    (⟨result, roster, [.joinRefused interface reason]⟩ :
      Run Server Result).IsWithoutEffect roster interface :=
  ⟨rfl, fun _ member => ⟨reason, List.mem_singleton.1 member⟩⟩

open Run

/-! ## Each call -/

/-- An interface does not get a list if there is no room for servers, or if the group
refuses it. -/
theorem failsIff_create (roster : Roster Server) (access : GroupAccess) (interface : String) :
    (roster.create access interface).FailsIff roster interface
      (roster.capacity = 0 ∨ roster.refusal access interface ≠ none) := by
  by_cases full : roster.capacity = 0
  · rw [create_of_full access interface full]
    exact .of_error rfl (isWithoutEffect_silent ..) (.inl full)
  · cases refused : roster.refusal access interface with
    | some reason =>
        rw [create_of_refused full refused]
        exact .of_error rfl (isWithoutEffect_refused ..) (.inr (Option.some_ne_none reason))
    | none =>
        refine .of_ok (create_of_granted full refused).1 ?_
        simp [full]

variable [DecidableEq Server]

/-- Adding fails for a new server on a full list, and where the list cannot be made. -/
theorem failsIff_add (roster : Roster Server) (access : GroupAccess) (interface : String)
    (server : Server) :
    (roster.add access interface server).FailsIff roster interface
      ((∃ servers, roster.list? interface = some servers ∧ server ∉ servers ∧
          roster.capacity ≤ servers.length) ∨
        roster.list? interface = none ∧
          (roster.capacity = 0 ∨ roster.refusal access interface ≠ none)) := by
  cases listed : roster.list? interface with
  | some servers =>
      by_cases member : server ∈ servers
      · have known : server ∈ roster.serversOf interface := by
          rwa [serversOf_of_list? listed]
        rw [add_of_mem access known]
        refine .of_ok rfl ?_
        simp [member]
      · by_cases short : servers.length < roster.capacity
        · rw [add_of_not_mem access listed member short]
          refine .of_ok rfl ?_
          simp [short]
        · have full := Nat.not_lt.1 short
          have found : roster.lists.get? interface = some servers := listed
          simp only [add, found, if_neg member, if_pos full]
          exact .of_error rfl (isWithoutEffect_silent ..) (.inl ⟨servers, rfl, member, full⟩)
  | none =>
      have absent : roster.lists.get? interface = none := listed
      have created := failsIff_create roster access interface
      simp only [add, absent]
      cases result : (roster.create access interface).result with
      | error fault =>
          have failure : (roster.create access interface).IsFailure := ⟨fault, result⟩
          have nothing := created.isWithoutEffect failure
          exact .of_error rfl ⟨nothing.unchanged, nothing.refused⟩
            (.inr ⟨trivial, created.isFailure_iff.1 failure⟩)
      | ok =>
          have succeeds : ¬ (roster.create access interface).IsFailure := by
            intro failure
            rcases failure with ⟨fault, failed⟩
            cases result.symm.trans failed
          refine .of_ok rfl ?_
          rw [created.isFailure_iff] at succeeds
          simpa using succeeds

variable [ToString Server]

/-- Removing fails for a server that is not listed. -/
theorem failsIff_remove (roster : Roster Server) (access : GroupAccess) (interface : String)
    (server : Server) :
    (roster.remove access interface server).FailsIff roster interface
      (server ∉ roster.serversOf interface) := by
  by_cases member : server ∈ roster.serversOf interface
  · exact .of_ok (remove_of_mem access member).1 (not_not_intro member)
  · rw [remove_of_not_mem access member]
    exact .of_error rfl (isWithoutEffect_silent ..) member

/-- Bringing in line fails with too many servers, and where a list is called for that
cannot be made.  It does not fail on the way: what it unlinks is listed, and what it adds
has room then. -/
theorem Sound.failsIff_assign (sound : roster.Sound) (access : GroupAccess)
    (interface : String) (desired : List Server) :
    (roster.assign access interface desired).FailsIff roster interface
      (roster.capacity < desired.toFinset.card ∨
        desired.toFinset.card ≠ 0 ∧ roster.list? interface = none ∧
          roster.refusal access interface ≠ none) := by
  have some : desired.toFinset.card ≠ 0 ↔ desired ≠ [] := by
    simp [Finset.card_eq_zero]
  rw [some, card_toFinset_eq]
  by_cases large : roster.capacity < desired.eraseDups.length
  · rw [assign_of_large access interface large]
    exact .of_error rfl (isWithoutEffect_silent ..) (.inl large)
  · have fits := Nat.not_lt.1 large
    by_cases stuck : desired ≠ [] ∧ roster.list? interface = none ∧
        roster.refusal access interface ≠ none
    · rcases stuck with ⟨some, absent, refused⟩
      rcases Option.ne_none_iff_exists'.1 refused with ⟨reason, given⟩
      rw [assign_of_refused some fits absent given]
      exact .of_error rfl (isWithoutEffect_refused ..) (.inr ⟨some, absent, refused⟩)
    · have joins : desired = [] ∨ roster.serversOf interface ≠ [] ∨
          roster.refusal access interface = none := by
        by_contra blocked
        push Not at blocked
        rcases blocked with ⟨some, bare, refused⟩
        exact stuck ⟨some, (sound.list?_eq interface).trans (if_pos bare), refused⟩
      exact .of_ok (assign_eq_ok sound fits joins).1 (not_or_intro large stuck)

/-! ## Histories -/

/-- In every state that a history leads to, each call fails exactly for the reasons given
here.  A call that fails changes no list and no record, and the group is not joined nor
left. -/
theorem failsIff_of_history (capacity : Nat) (multicast : Bool)
    (calls : List (GroupAccess × Operation Server)) (access : GroupAccess)
    (interface : String) :
    let roster := (empty capacity multicast : Roster Server).after calls
    let isRefused := roster.refusal access interface ≠ none
    (∀ server, (roster.add access interface server).FailsIff roster interface
      ((∃ servers, roster.list? interface = some servers ∧ server ∉ servers ∧
          capacity ≤ servers.length) ∨
        roster.list? interface = none ∧ (capacity = 0 ∨ isRefused))) ∧
      (∀ server, (roster.remove access interface server).FailsIff roster interface
        (server ∉ roster.serversOf interface)) ∧
      ∀ desired, (roster.assign access interface desired).FailsIff roster interface
        (capacity < desired.toFinset.card ∨
          desired.toFinset.card ≠ 0 ∧ roster.list? interface = none ∧ isRefused) := by
  intro roster isRefused
  have sound : roster.Sound := (sound_empty capacity multicast).after calls
  have limit : roster.capacity = capacity := capacity_after _ calls
  rw [← limit]
  refine ⟨?_, ?_, ?_⟩
  · exact failsIff_add roster access interface
  · exact failsIff_remove roster access interface
  · exact sound.failsIff_assign access interface

end DhcpRelay.Roster
