import Mathlib.Data.List.Forall2

/-!
# Computations that may fail

A computation succeeds exactly if its steps do, and a list of computations
exactly if each of them does.  It fails with nothing but what its steps fail with.
-/

namespace DhcpRelay

variable {Fault Input Output : Type}

theorem bind_eq_ok_iff {first : Except Fault Input} {next : Input → Except Fault Output}
    {output : Output} :
    (first >>= next) = .ok output ↔ ∃ input, first = .ok input ∧ next input = .ok output := by
  cases first with
  | error fault => simp [bind, Except.bind]
  | ok input => simp [bind, Except.bind]

theorem map_eq_ok_iff {first : Except Fault Input} {next : Input → Output} {output : Output} :
    first.map next = .ok output ↔ ∃ input, first = .ok input ∧ next input = output := by
  cases first with
  | error fault => simp [Except.map]
  | ok input => simp [Except.map]

theorem mapM_eq_ok_iff {compute : Input → Except Fault Output} {inputs : List Input}
    {outputs : List Output} :
    inputs.mapM compute = .ok outputs ↔
      List.Forall₂ (fun input output => compute input = .ok output) inputs outputs := by
  induction inputs generalizing outputs with
  | nil => simp [pure, Except.pure, eq_comm]
  | cons input rest ih =>
      rw [List.mapM_cons, bind_eq_ok_iff]
      constructor
      · intro computed
        rcases computed with ⟨output, first, later⟩
        rcases bind_eq_ok_iff.1 later with ⟨others, computed, equal⟩
        simp only [pure, Except.pure, Except.ok.injEq] at equal
        subst equal
        exact .cons first (ih.1 computed)
      · intro computed
        rcases computed with _ | ⟨first, later⟩
        exact ⟨_, first, bind_eq_ok_iff.2 ⟨_, ih.2 later, rfl⟩⟩

/-- A list of computations that succeed under a condition, with known results. -/
theorem mapM_eq_ok_iff_map {compute : Input → Except Fault Output} {condition : Input → Prop}
    {result : Input → Output}
    (each : ∀ input output, compute input = .ok output ↔ condition input ∧ output = result input)
    {inputs : List Input} {outputs : List Output} :
    inputs.mapM compute = .ok outputs ↔
      (∀ input ∈ inputs, condition input) ∧ outputs = inputs.map result := by
  induction inputs generalizing outputs with
  | nil => simp [pure, Except.pure, eq_comm]
  | cons input rest ih =>
      simp only [List.mapM_cons, bind_eq_ok_iff, each, ih, pure, Except.pure, Except.ok.injEq,
        List.forall_mem_cons, List.map_cons]
      constructor
      · intro computed
        rcases computed with ⟨_, ⟨here, rfl⟩, _, ⟨behind, rfl⟩, rfl⟩
        exact ⟨⟨here, behind⟩, rfl⟩
      · intro succeed
        rcases succeed with ⟨⟨here, behind⟩, rfl⟩
        exact ⟨_, ⟨here, rfl⟩, _, ⟨behind, rfl⟩, rfl⟩

/-- A list of checks succeeds if each of them does. -/
theorem forM_eq_ok_iff {check : Input → Except Fault Unit} {inputs : List Input} :
    inputs.forM check = .ok () ↔ ∀ input ∈ inputs, check input = .ok () := by
  induction inputs with
  | nil => simp [List.forM, pure, Except.pure]
  | cons input rest ih =>
      change (check input >>= fun _ => rest.forM check) = .ok () ↔ _
      rw [bind_eq_ok_iff, List.forall_mem_cons, ih]
      constructor
      · intro checked
        rcases checked with ⟨_, here, behind⟩
        exact ⟨here, behind⟩
      · intro checked
        exact ⟨(), checked⟩

/-- Each result of a list of computations belongs to one of them. -/
theorem exists_of_mem_mapM {compute : Input → Except Fault Output} {inputs : List Input}
    {outputs : List Output} (computed : inputs.mapM compute = .ok outputs) {output : Output}
    (member : output ∈ outputs) : ∃ input ∈ inputs, compute input = .ok output := by
  have each := mapM_eq_ok_iff.1 computed
  induction each with
  | nil => simp at member
  | @cons input first inputs outputs here later ih =>
      rcases List.mem_cons.1 member with rfl | behind
      · exact ⟨input, List.mem_cons_self, here⟩
      · rcases ih (mapM_eq_ok_iff.2 later) behind with ⟨found, among, result⟩
        exact ⟨found, List.mem_cons_of_mem input among, result⟩

/-! ## What a computation may fail with -/

/-- The computation fails with allowed faults only. -/
def FailsWith (allowed : Fault → Prop) (computation : Except Fault Output) : Prop :=
  ∀ fault, computation = .error fault → allowed fault

namespace FailsWith

variable {allowed : Fault → Prop}

theorem ok (output : Output) : FailsWith allowed (.ok output : Except Fault Output) := nofun

theorem error {fault : Fault} (isAllowed : allowed fault) :
    FailsWith allowed (.error fault : Except Fault Output) := by
  intro other same
  cases same
  exact isAllowed

theorem bind {first : Except Fault Input} {next : Input → Except Fault Output}
    (here : FailsWith allowed first) (later : ∀ input, FailsWith allowed (next input)) :
    FailsWith allowed (first >>= next) := by
  cases first with
  | error fault => exact error (here fault rfl)
  | ok input => exact later input

theorem map {first : Except Fault Input} (here : FailsWith allowed first)
    (result : Input → Output) : FailsWith allowed (first.map result) := by
  cases first with
  | error fault => exact error (here fault rfl)
  | ok input => exact ok (result input)

theorem mono {other : Fault → Prop} {computation : Except Fault Output}
    (fails : FailsWith allowed computation) (weaker : ∀ fault, allowed fault → other fault) :
    FailsWith other computation :=
  fun fault failed => weaker fault (fails fault failed)

theorem mapM_of_mem {compute : Input → Except Fault Output} {inputs : List Input}
    (each : ∀ input ∈ inputs, FailsWith allowed (compute input)) :
    FailsWith allowed (inputs.mapM compute) := by
  induction inputs with
  | nil => exact ok []
  | cons input rest ih =>
      rw [List.forall_mem_cons] at each
      rw [List.mapM_cons]
      exact each.1.bind fun output => (ih each.2).bind fun outputs => ok (output :: outputs)

theorem mapM {compute : Input → Except Fault Output} {inputs : List Input}
    (each : ∀ input, FailsWith allowed (compute input)) :
    FailsWith allowed (inputs.mapM compute) :=
  mapM_of_mem fun input _ => each input

end FailsWith

end DhcpRelay
