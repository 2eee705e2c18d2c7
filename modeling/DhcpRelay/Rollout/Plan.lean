import DhcpRelay.Configuration.Document

/-!
# What a document changes

A plan compares a document with the rows that were applied before.  All rows are
read and checked while the plan is made, so a document with a fault gives no plan
at all.
-/

namespace DhcpRelay

/-- How a row differs from the one applied before. -/
inductive RowStatus where
  | inserted
  | modified
  | deleted
  deriving DecidableEq, Repr

def RowStatus.text : RowStatus → String
  | inserted => "Inserted"
  | modified => "Modified"
  | deleted => "Deleted"

/-- A row to apply, with its servers. -/
structure PlannedRow where
  row : Row
  change : RowStatus
  v4 : List Server4
  v6 : List Server6
  deriving DecidableEq, Repr

/-- The changes of a document: the interfaces that lose their rows, the rows to
apply, both sorted by name, and the settings. -/
structure Plan where
  withdrawn : List String
  rows : List PlannedRow
  settings : Settings
  deriving DecidableEq, Repr

namespace Plan

/-- The rows that a document has for one VRF, and the rows it has for others up
to the first fault. -/
structure Selection where
  skipped : List Row
  rows : Except ConfigFault (List Row)

/-- Select the rows of the served VRF.  Their names must not be empty nor among
`names`, which came before. -/
def select (served : String) (names : List String) : List Row → Selection
  | [] => ⟨[], .ok []⟩
  | row :: rest =>
      if !row.isIn served then
        let later := select served names rest
        ⟨row :: later.skipped, later.rows⟩
      else if row.name.isEmpty then
        ⟨[], .error (.invalidValue "name" "")⟩
      else if row.name ∈ names then
        ⟨[], .error (.invalidValue "name" row.name)⟩
      else
        let later := select served (row.name :: names) rest
        ⟨later.skipped, later.rows.map (row :: ·)⟩

/-- Check that an interface may have as many servers, repetitions apart. -/
def ensureFits {Server : Type} [DecidableEq Server] (capacity : Nat) (interface : String)
    (servers : List Server) : Except ConfigFault Unit :=
  if capacity < servers.eraseDups.length then
    .error (.servers (.capacityExceeded interface capacity))
  else
    .ok ()

/-- The change of a row. -/
def statusOf (applied : Table String Row) (row : Row) : Option RowStatus :=
  match applied.get? row.name with
  | none => some .inserted
  | some previous => if previous = row then none else some .modified

/-- Plan a row; nothing is planned for a row that did not change. -/
def row (applied : Table String Row) (capacity4 capacity6 : Nat)
    (row : Row) : Except ConfigFault (Option PlannedRow) :=
  match statusOf applied row with
  | none => .ok none
  | some change => do
      let v4 ← row.servers4
      let v6 ← row.servers6
      ensureFits capacity4 row.name v4
      ensureFits capacity6 row.name v6
      return some ⟨row, change, v4, v6⟩

/-- Rows in the order of their names. -/
def sortRows (rows : List Row) : List Row :=
  rows.mergeSort fun left right => left.name ≤ right.name

/-- The applied rows that are not among `rows`, by name and in order. -/
def missing (applied : Table String Row) (rows : List Row) : List String :=
  (applied.keys.mergeSort fun left right => left ≤ right).filter
    fun name => rows.all (·.name != name)

/-- Plan the selected rows of a document. -/
def ofRows (settings : Settings) (applied : Table String Row)
    (capacity4 capacity6 : Nat) (rows : List Row) : Except ConfigFault Plan := do
  let planned ← (sortRows rows).mapM (row applied capacity4 capacity6)
  return ⟨missing applied rows, planned.filterMap id, settings⟩

end Plan

end DhcpRelay
