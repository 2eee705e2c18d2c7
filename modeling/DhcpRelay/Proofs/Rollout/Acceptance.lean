import DhcpRelay.Proofs.Except
import DhcpRelay.Proofs.Servers.Assignment
import DhcpRelay.Rollout.Plan

/-!
# Which documents are accepted

A plan is made of the rows that differ from those applied before, so only these
are read.  A row that did not change was read when it was applied.
-/

namespace DhcpRelay

/-- The rows of the VRF that a document serves. -/
def Document.servedRows (document : Document) : List Row :=
  document.interfaces.filter (·.isIn document.defaultVrf)

namespace Row

/-- The DHCPv4 servers that a row asks for, if they can be read. -/
def wanted4 (row : Row) : List Server4 :=
  row.servers4.toOption.getD []

/-- The DHCPv6 servers that a row asks for, if they can be read. -/
def wanted6 (row : Row) : List Server6 :=
  row.servers6.toOption.getD []

/-- The servers of a row can be read, and an interface may have as many. -/
structure IsServable (capacity4 capacity6 : Nat) (row : Row) : Prop where
  read4 : row.servers4 = .ok row.wanted4
  read6 : row.servers6 = .ok row.wanted6
  fits4 : row.wanted4.toFinset.card ≤ capacity4
  fits6 : row.wanted6.toFinset.card ≤ capacity6

end Row

/-- What a document has to fulfil, whatever was applied before. -/
structure Document.IsAcceptable (capacity4 capacity6 : Nat) (document : Document) : Prop where
  settings : ∃ settings, document.settings = .ok settings
  named : ∀ row ∈ document.servedRows, row.name ≠ ""
  distinct : (document.servedRows.map Row.name).Nodup
  servable : ∀ row ∈ document.servedRows, row.IsServable capacity4 capacity6

/-! ## Selecting rows -/

namespace Plan

/-- The names of rows are not empty, not among `names` and not repeated. -/
def WellNamed (names : List String) (rows : List Row) : Prop :=
  (∀ row ∈ rows, row.name ≠ "" ∧ row.name ∉ names) ∧ (rows.map Row.name).Nodup

theorem wellNamed_cons_iff {names : List String} {row : Row} {rest : List Row} :
    WellNamed names (row :: rest) ↔
      (row.name ≠ "" ∧ row.name ∉ names) ∧ WellNamed (row.name :: names) rest := by
  rw [WellNamed, List.forall_mem_cons, List.map_cons, List.nodup_cons, WellNamed]
  constructor
  · intro named
    rcases named with ⟨⟨first, named⟩, apart, distinct⟩
    refine ⟨first, ?_, distinct⟩
    intro other member
    rcases named other member with ⟨some, fresh⟩
    refine ⟨some, ?_⟩
    rw [List.mem_cons, not_or]
    refine ⟨?_, fresh⟩
    intro same
    exact apart (List.mem_map.2 ⟨other, member, same⟩)
  · intro named
    rcases named with ⟨first, named, distinct⟩
    refine ⟨⟨first, ?_⟩, ?_, distinct⟩
    · intro other member
      rcases named other member with ⟨some, fresh⟩
      exact ⟨some, mt (List.mem_cons_of_mem row.name) fresh⟩
    · intro again
      rcases List.mem_map.1 again with ⟨other, member, same⟩
      exact (named other member).2 (same ▸ List.mem_cons_self)

/-- The rows of the served VRF are selected unless one of them has a bad name. -/
theorem select_rows_eq_ok_iff {served : String} {names : List String} {rows found : List Row} :
    (select served names rows).rows = .ok found ↔
      WellNamed names found ∧ found = rows.filter (·.isIn served) := by
  induction rows generalizing names found with
  | nil =>
      simp only [select, Except.ok.injEq, List.filter_nil]
      constructor
      · intro equal
        subst equal
        exact ⟨⟨nofun, List.nodup_nil⟩, rfl⟩
      · intro named
        rcases named with ⟨_, rfl⟩
        rfl
  | cons row rest ih =>
      rw [select, List.filter_cons]
      by_cases inside : row.isIn served = true
      · simp only [inside, Bool.not_true, Bool.false_eq_true, if_false, if_true]
        by_cases bad : row.name.isEmpty = true ∨ row.name ∈ names
        · have fails : ¬ WellNamed names (row :: rest.filter (·.isIn served)) := by
            intro named
            rcases (wellNamed_cons_iff.1 named).1 with ⟨some, fresh⟩
            exact bad.elim (fun none => some (String.isEmpty_iff.1 none)) fresh
          constructor
          · intro found
            split at found
            · cases found
            · rename_i some
              rw [if_pos (bad.resolve_left some)] at found
              cases found
          · intro selected
            rcases selected with ⟨named, rfl⟩
            exact absurd named fails
        · rw [not_or] at bad
          simp only [if_neg bad.1, if_neg bad.2, map_eq_ok_iff, ih]
          constructor
          · intro mapped
            rcases mapped with ⟨later, ⟨named, rfl⟩, rfl⟩
            exact ⟨wellNamed_cons_iff.2 ⟨⟨mt String.isEmpty_iff.2 bad.1, bad.2⟩, named⟩, rfl⟩
          · intro selected
            rcases selected with ⟨named, rfl⟩
            exact ⟨_, ⟨(wellNamed_cons_iff.1 named).2, rfl⟩, rfl⟩
      · rw [if_neg inside]
        rw [Bool.not_eq_true] at inside
        simp only [inside, Bool.not_false, if_true]
        exact ih

/-! ## Planning rows -/

theorem ensureFits_eq_ok_iff {Server : Type} [DecidableEq Server] {capacity : Nat}
    {interface : String} {servers : List Server} {result : Unit} :
    ensureFits capacity interface servers = .ok result ↔ servers.toFinset.card ≤ capacity := by
  rw [Roster.card_toFinset_eq, ensureFits]
  split
  · rename_i large
    simp [large]
  · rename_i small
    simp [Nat.not_lt.1 small]

/-- The row as it is planned, if it differs from the one applied before. -/
def planned? (applied : Table String Row) (row : Row) : Option PlannedRow :=
  (statusOf applied row).map fun change => ⟨row, change, row.wanted4, row.wanted6⟩

theorem statusOf_eq_none_iff {applied : Table String Row} {row : Row} :
    statusOf applied row = none ↔ applied.get? row.name = some row := by
  rw [statusOf]
  cases applied.get? row.name with
  | none => simp
  | some previous =>
      by_cases same : previous = row <;> simp [same]

/-- A row is planned unless it differs from the one applied before and cannot be
served. -/
theorem row_eq_ok_iff {applied : Table String Row} {capacity4 capacity6 : Nat} {row : Row}
    {planned : Option PlannedRow} :
    Plan.row applied capacity4 capacity6 row = .ok planned ↔
      (applied.get? row.name ≠ some row → row.IsServable capacity4 capacity6) ∧
        planned = planned? applied row := by
  rw [Plan.row, planned?]
  cases status : statusOf applied row with
  | none =>
      have same := statusOf_eq_none_iff.1 status
      simp [same, eq_comm]
  | some change =>
      have differs : applied.get? row.name ≠ some row := by
        intro same
        rw [statusOf_eq_none_iff.2 same] at status
        cases status
      simp only [bind_eq_ok_iff, ensureFits_eq_ok_iff, pure, Except.pure, Except.ok.injEq]
      constructor
      · intro read
        rcases read with ⟨v4, read4, v6, read6, _, fits4, _, fits6, rfl⟩
        have same4 : row.wanted4 = v4 := by
          rw [Row.wanted4, read4]
          rfl
        have same6 : row.wanted6 = v6 := by
          rw [Row.wanted6, read6]
          rfl
        subst same4 same6
        exact ⟨fun _ => ⟨read4, read6, fits4, fits6⟩, rfl⟩
      · intro checked
        rcases checked with ⟨servable, rfl⟩
        rcases servable differs with ⟨read4, read6, fits4, fits6⟩
        exact ⟨_, read4, _, read6, (), fits4, (), fits6, rfl⟩

/-- The plan for rows, less the reading and checking. -/
def changing (settings : Settings) (applied : Table String Row) (rows : List Row) : Plan :=
  ⟨missing applied rows, (sortRows rows).filterMap (planned? applied), settings⟩

theorem mem_sortRows {rows : List Row} {row : Row} : row ∈ sortRows rows ↔ row ∈ rows :=
  List.mem_mergeSort

theorem ofRows_eq_ok_iff {settings : Settings} {applied : Table String Row}
    {capacity4 capacity6 : Nat} {rows : List Row} {plan : Plan} :
    ofRows settings applied capacity4 capacity6 rows = .ok plan ↔
      (∀ row ∈ rows, applied.get? row.name ≠ some row → row.IsServable capacity4 capacity6) ∧
        plan = changing settings applied rows := by
  simp only [ofRows, bind_eq_ok_iff, mapM_eq_ok_iff_map fun _ _ => row_eq_ok_iff, mem_sortRows,
    pure, Except.pure, Except.ok.injEq, changing]
  constructor
  · intro computed
    rcases computed with ⟨_, ⟨servable, rfl⟩, rfl⟩
    refine ⟨servable, ?_⟩
    rw [List.filterMap_map]
    rfl
  · intro checked
    rcases checked with ⟨servable, rfl⟩
    refine ⟨_, ⟨servable, rfl⟩, ?_⟩
    rw [List.filterMap_map]
    rfl

end Plan

/-- The rows of a document can be planned after what was applied before. -/
structure Document.IsPlannable (capacity4 capacity6 : Nat) (applied : Table String Row)
    (document : Document) : Prop where
  named : ∀ row ∈ document.servedRows, row.name ≠ ""
  distinct : (document.servedRows.map Row.name).Nodup
  servable : ∀ row ∈ document.servedRows, applied.get? row.name ≠ some row →
    row.IsServable capacity4 capacity6

theorem Document.plan_eq_ok_iff {document : Document} {settings : Settings}
    {applied : Table String Row} {capacity4 capacity6 : Nat} {plan : Plan} :
    (Plan.select document.defaultVrf [] document.interfaces).rows.bind
        (Plan.ofRows settings applied capacity4 capacity6) = .ok plan ↔
      document.IsPlannable capacity4 capacity6 applied ∧
        plan = Plan.changing settings applied document.servedRows := by
  have bound : ∀ (first : Except ConfigFault (List Row)) next,
      first.bind next = (first >>= next : Except ConfigFault Plan) := fun _ _ => rfl
  simp only [bound, bind_eq_ok_iff, Plan.select_rows_eq_ok_iff, Plan.ofRows_eq_ok_iff]
  constructor
  · intro selected
    rcases selected with ⟨_, ⟨⟨named, distinct⟩, rfl⟩, servable, rfl⟩
    exact ⟨⟨fun row member => (named row member).1, distinct, servable⟩, rfl⟩
  · intro plannable
    rcases plannable with ⟨⟨named, distinct, servable⟩, rfl⟩
    exact ⟨_, ⟨⟨fun row member => ⟨named row member, List.not_mem_nil⟩, distinct⟩, rfl⟩,
      servable, rfl⟩

end DhcpRelay
