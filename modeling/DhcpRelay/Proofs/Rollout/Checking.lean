import DhcpRelay.Proofs.Rollout.History
import DhcpRelay.Proofs.Rollout.PlanFaults

/-!
# What the check of a document leaves open

Checking a document reads its settings and every row by itself.  Applying it asks for more: the
served rows must not repeat a name, and none may have more servers than an interface has room
for.  Besides these two gaps there are none.
-/

namespace DhcpRelay

/-! ## Checked documents -/

/-- A row has a name and its servers can be read. -/
structure Row.IsReadable (row : Row) : Prop where
  named : row.name ≠ ""
  read4 : row.servers4 = .ok row.wanted4
  read6 : row.servers6 = .ok row.wanted6

namespace Document

variable {document : Document} {capacity4 capacity6 : Nat}

theorem checkRow_eq_ok_iff {row : Row} : checkRow row = .ok () ↔ row.IsReadable := by
  rw [checkRow]
  by_cases unnamed : row.name.isEmpty = true
  · rw [if_pos unnamed]
    constructor
    · nofun
    · intro readable
      exact absurd (String.isEmpty_iff.1 unnamed) readable.named
  · rw [if_neg unnamed]
    simp only [bind_eq_ok_iff, and_true]
    constructor
    · intro read
      rcases read with ⟨v4, read4, v6, read6⟩
      refine ⟨mt String.isEmpty_iff.2 unnamed, ?_, ?_⟩
      · rw [Row.wanted4, read4]
        rfl
      · rw [Row.wanted6, read6]
        rfl
    · intro readable
      exact ⟨_, readable.read4, _, readable.read6⟩

/-- A document is accepted by the check if its settings and all its rows can be read. -/
theorem check_eq_ok_iff :
    document.check = .ok () ↔
      (∃ settings, document.settings = .ok settings) ∧
        ∀ row ∈ document.interfaces, row.IsReadable := by
  rw [check, bind_eq_ok_iff]
  simp only [forM_eq_ok_iff, checkRow_eq_ok_iff, exists_and_right]

theorem isReadable_of_check (accepted : document.check = .ok ()) :
    ∀ row ∈ document.servedRows, row.IsReadable :=
  fun row member => (check_eq_ok_iff.1 accepted).2 row (List.mem_filter.1 member).1

/-- The served rows of a document do not repeat a name, and no interface has too many servers. -/
structure IsRoomy (capacity4 capacity6 : Nat) (document : Document) : Prop where
  distinct : (document.servedRows.map Row.name).Nodup
  fits4 : ∀ row ∈ document.servedRows, row.wanted4.toFinset.card ≤ capacity4
  fits6 : ∀ row ∈ document.servedRows, row.wanted6.toFinset.card ≤ capacity6

theorem isAcceptable_iff_of_check (accepted : document.check = .ok ()) :
    document.IsAcceptable capacity4 capacity6 ↔ document.IsRoomy capacity4 capacity6 := by
  have readable := isReadable_of_check accepted
  constructor
  · intro acceptable
    exact ⟨acceptable.distinct, fun row member => (acceptable.servable row member).fits4,
      fun row member => (acceptable.servable row member).fits6⟩
  · intro roomy
    refine ⟨(check_eq_ok_iff.1 accepted).1, fun row member => (readable row member).named,
      roomy.distinct, fun row member => ?_⟩
    exact ⟨(readable row member).read4, (readable row member).read6, roomy.fits4 row member,
      roomy.fits6 row member⟩

/-! ## The gaps -/

/-- What applying a document may find fault with although the check accepts it. -/
inductive Gap (capacity4 capacity6 : Nat) (document : Document) : ConfigFault → Prop where
  | repeated {row : Row} (member : row ∈ document.servedRows)
      (twice : 2 ≤ (document.servedRows.map Row.name).count row.name) :
      Gap capacity4 capacity6 document (.invalidValue "name" row.name)
  | crowded4 {row : Row} (member : row ∈ document.servedRows)
      (large : capacity4 < row.wanted4.toFinset.card) :
      Gap capacity4 capacity6 document (.servers (.capacityExceeded row.name capacity4))
  | crowded6 {row : Row} (member : row ∈ document.servedRows)
      (large : capacity6 < row.wanted6.toFinset.card) :
      Gap capacity4 capacity6 document (.servers (.capacityExceeded row.name capacity6))

end Document

namespace Plan

/-- Rows that have names are selected unless one of them repeats a name. -/
theorem failsWith_select_of_named {served : String} {names : List String} {rows : List Row}
    (named : ∀ row ∈ rows.filter (·.isIn served), row.name ≠ "") :
    FailsWith (fun fault => ∃ row ∈ rows.filter (·.isIn served),
        fault = .invalidValue "name" row.name ∧
          (row.name ∈ names ∨ 2 ≤ ((rows.filter (·.isIn served)).map Row.name).count row.name))
      (select served names rows).rows := by
  induction rows generalizing names with
  | nil => exact .ok []
  | cons row rest ih =>
      rw [List.filter_cons] at named ⊢
      rw [select]
      by_cases inside : row.isIn served = true
      · rw [if_pos inside, List.forall_mem_cons] at named
        rw [if_pos inside]
        simp only [inside, Bool.not_true, Bool.false_eq_true, if_false]
        rw [if_neg (mt String.isEmpty_iff.1 named.1)]
        split
        · rename_i known
          exact .error ⟨row, List.mem_cons_self, rfl, .inl known⟩
        · refine ((ih named.2).map (row :: ·)).mono fun fault repeats => ?_
          rcases repeats with ⟨other, member, rfl, again⟩
          refine ⟨other, List.mem_cons_of_mem row member, rfl, ?_⟩
          -- A name that came right before is counted here once more.
          have counted : 0 < ((rest.filter (·.isIn served)).map Row.name).count other.name :=
            List.count_pos_iff.2 (List.mem_map_of_mem member)
          rw [List.map_cons, List.count_cons]
          rcases again with known | twice
          · rcases List.mem_cons.1 known with same | known
            · right
              rw [if_pos (beq_iff_eq.2 same.symm)]
              omega
            · exact .inl known
          · right
            omega
      · rw [if_neg inside] at named ⊢
        rw [Bool.not_eq_true] at inside
        simp only [inside, Bool.not_false, if_true]
        exact ih named

variable {document : Document} {capacity4 capacity6 : Nat} {applied : Table String Row}

theorem failsWith_row_of_readable {row : Row} (member : row ∈ document.servedRows)
    (readable : row.IsReadable) :
    FailsWith (document.Gap capacity4 capacity6) (Plan.row applied capacity4 capacity6 row) := by
  rw [Plan.row, readable.read4, readable.read6]
  split
  · exact .ok none
  · change FailsWith _ (ensureFits capacity4 row.name row.wanted4 >>= fun _ =>
      ensureFits capacity6 row.name row.wanted6 >>= fun _ => .ok _)
    refine FailsWith.bind (failsWith_ensureFits ?_) fun _ => ?_
    · rw [← Roster.card_toFinset_eq]
      exact .crowded4 member
    · refine FailsWith.bind (failsWith_ensureFits ?_) fun _ => .ok _
      rw [← Roster.card_toFinset_eq]
      exact .crowded6 member

/-- A checked document cannot be planned only if it has a gap. -/
theorem failsWith_plan_of_check (accepted : document.check = .ok ()) (settings : Settings) :
    FailsWith (document.Gap capacity4 capacity6)
      ((select document.defaultVrf [] document.interfaces).rows.bind
        (ofRows settings applied capacity4 capacity6)) := by
  have readable := Document.isReadable_of_check accepted
  cases selected : (select document.defaultVrf [] document.interfaces).rows with
  | error fault =>
      rcases failsWith_select_of_named (fun row member => (readable row member).named) fault
        selected with ⟨row, member, rfl, known | twice⟩
      · exact absurd known List.not_mem_nil
      · exact .error (.repeated member twice)
  | ok rows =>
      rcases select_rows_eq_ok_iff.1 selected with ⟨_, rfl⟩
      change FailsWith _ (ofRows settings applied capacity4 capacity6 document.servedRows)
      refine FailsWith.bind (FailsWith.mapM_of_mem fun row member => ?_) fun _ => .ok _
      have served : row ∈ document.servedRows := mem_sortRows.1 member
      exact failsWith_row_of_readable served (readable row served)

end Plan

namespace ManagedRelay

variable {capacity4 capacity6 : Nat} {access : GroupAccess} {document : Document}
  {state : ManagedRelay}

/-- A document that the check accepts, applied to a fresh relay with no join refused, is
accepted there if it repeats no name and no interface has too many servers.  Otherwise it fails
for one of these two reasons, and nothing changes. -/
theorem apply_eq_ok_iff_of_check (relay : Relay) (multicast4 multicast6 : Bool)
    (accepted : document.check = .ok ())
    (granted : NoRefusal ((fresh relay capacity4 capacity6 multicast4 multicast6).apply access
      document).events) :
    let start := fresh relay capacity4 capacity6 multicast4 multicast6
    let run := start.apply access document
    ((∃ report, run.result = .ok report) ↔ document.IsRoomy capacity4 capacity6) ∧
      ∀ fault, run.result = .error fault →
        document.Gap capacity4 capacity6 fault ∧ run.after = start := by
  intro start run
  have inLine := inLine_fresh relay capacity4 capacity6 multicast4 multicast6
  have accepts : (∃ report, run.result = .ok report) ↔ _ := (inLine.apply granted).2.1
  refine ⟨accepts.trans (Document.isAcceptable_iff_of_check accepted), fun fault failed => ?_⟩
  rcases (Document.check_eq_ok_iff.1 accepted).1 with ⟨settings, read⟩
  cases planned : (Plan.select document.defaultVrf [] document.interfaces).rows.bind
      (Plan.ofRows settings start.applied capacity4 capacity6) with
  | error own =>
      have rejected := apply_of_plan_eq_error access read planned
      cases failed.symm.trans (congrArg Rollout.result rejected)
      exact ⟨Plan.failsWith_plan_of_check accepted settings fault planned,
        congrArg Rollout.after rejected⟩
  | ok plan =>
      have plannable := (Document.plan_eq_ok_iff.1 planned).1
      rcases accepts.2 ((isAcceptable_iff inLine).2 ⟨⟨settings, read⟩, plannable⟩) with
        ⟨report, done⟩
      cases failed.symm.trans done

/-- A document with one row twice. -/
def repeatedDocument : Document :=
  plainDocument (List.replicate 2 ⟨"eth1", none, ["10.0.0.5"], [], [], []⟩)

/-- A name may be repeated in a VRF that is not served, but not in the one that is. -/
theorem apply_eq_ok_iff_of_check_foreignRow :
    let start := fresh (.start .default ⟨[], .zero⟩) 16 8 false true
    let document := plainDocument [foreignRow, pairRow "eth1" "10.0.0.6" "fd00::6"]
    let repeated := start.apply grantingJoins repeatedDocument
    document.check = .ok () ∧ document.IsRoomy 16 8 ∧
      repeatedDocument.check = .ok () ∧
      repeatedDocument.Gap 16 8 (.invalidValue "name" "eth1") ∧ repeated.after = start := by
  intro start document repeated
  have checked : document.check = .ok () := by decide +kernel
  have granted : NoRefusal (start.apply grantingJoins document).events := by
    rw [NoRefusal]
    decide +kernel
  have done : (start.apply grantingJoins document).result =
      .ok ⟨[("eth1", .inserted)], ["eth1"], 0⟩ := by
    decide +kernel
  have repeatedChecked : repeatedDocument.check = .ok () := by decide +kernel
  have repeatedGranted : NoRefusal repeated.events := by
    rw [NoRefusal]
    decide +kernel
  have failed : repeated.result = .error (.invalidValue "name" "eth1") := by decide +kernel
  have accepts := apply_eq_ok_iff_of_check _ false true checked granted
  have rejects := apply_eq_ok_iff_of_check _ false true repeatedChecked repeatedGranted
  rcases rejects.2 _ failed with ⟨gap, same⟩
  exact ⟨checked, accepts.1.1 ⟨_, done⟩, repeatedChecked, gap, same⟩

/-- The check accepts the document with the repeated row, and a relay that has just started
does not, although no group refuses anything. -/
theorem not_accepted_repeatedDocument :
    let run := (ManagedRelay.start .default ⟨[], .zero⟩).apply grantingJoins repeatedDocument
    repeatedDocument.check = .ok () ∧
      (∀ interface, grantingJoins.refusesJoin interface = none) ∧
      run.result = .error (.invalidValue "name" "eth1") ∧ ¬ ∃ report, run.result = .ok report := by
  intro run
  have failed : run.result = .error (.invalidValue "name" "eth1") := by decide +kernel
  refine ⟨by decide +kernel, fun _ => rfl, failed, fun accepted => ?_⟩
  rcases accepted with ⟨report, done⟩
  cases failed.symm.trans done

end ManagedRelay

end DhcpRelay
