/-!
# Finite tables

A table keeps at most one value per key.  It is used through `get?`; the order
of its entries means nothing, and readers that need one sort the keys.
-/

namespace DhcpRelay

/-- Keys with their values. -/
structure Table (Key Value : Type) where
  entries : List (Key × Value)
  nodup_keys : (entries.map Prod.fst).Nodup
  deriving Repr

namespace Table

variable {Key Value : Type}

/-- The table without entries. -/
def empty : Table Key Value := ⟨[], List.nodup_nil⟩

/-- The keys that have a value. -/
def keys (table : Table Key Value) : List Key :=
  table.entries.map Prod.fst

/-- The number of keys. -/
def size (table : Table Key Value) : Nat :=
  table.entries.length

/-- No key has a value. -/
def isEmpty (table : Table Key Value) : Bool :=
  table.entries.isEmpty

variable [DecidableEq Key]

/-- The value of a key. -/
def get? (table : Table Key Value) (key : Key) : Option Value :=
  (table.entries.find? (·.1 == key)).map Prod.snd

/-- The table without a value for `key`. -/
def erase (table : Table Key Value) (key : Key) : Table Key Value where
  entries := table.entries.filter (·.1 != key)
  nodup_keys := (List.filter_sublist.map Prod.fst).nodup table.nodup_keys

/-- The table with `value` for `key`. -/
def put (table : Table Key Value) (key : Key) (value : Value) : Table Key Value where
  entries := (key, value) :: (table.erase key).entries
  nodup_keys := by
    rw [List.map_cons, List.nodup_cons]
    refine ⟨?_, (table.erase key).nodup_keys⟩
    simp [erase]

/-- The key has a value. -/
def contains (table : Table Key Value) (key : Key) : Bool :=
  (table.get? key).isSome

@[simp] theorem get?_empty (key : Key) : (empty : Table Key Value).get? key = none := rfl

theorem find?_filter_ne {entries : List (Key × Value)} {key other : Key} (different : other ≠ key) :
    (entries.filter (·.1 != key)).find? (·.1 == other) = entries.find? (·.1 == other) := by
  induction entries with
  | nil => rfl
  | cons entry rest ih =>
      by_cases same : entry.1 = key
      · have skipped : (entry.1 == other) = false := by
          rw [same]
          exact beq_false_of_ne different.symm
        simp [same, ih, different.symm]
      · by_cases found : entry.1 = other <;> simp [same, found, ih, different]

@[simp] theorem get?_erase_self (table : Table Key Value) (key : Key) :
    (table.erase key).get? key = none := by
  simp [get?, erase]

theorem get?_erase_of_ne (table : Table Key Value) {key other : Key} (different : other ≠ key) :
    (table.erase key).get? other = table.get? other := by
  simp only [get?, erase, find?_filter_ne different]

@[simp] theorem get?_put_self (table : Table Key Value) (key : Key) (value : Value) :
    (table.put key value).get? key = some value := by
  simp [get?, put]

theorem get?_put_of_ne (table : Table Key Value) {key other : Key} (value : Value)
    (different : other ≠ key) : (table.put key value).get? other = table.get? other := by
  have behind : (table.put key value).get? other = (table.erase key).get? other := by
    simp [get?, put, different.symm]
  rw [behind, get?_erase_of_ne table different]

theorem mem_keys_iff {table : Table Key Value} {key : Key} :
    key ∈ table.keys ↔ (table.get? key).isSome := by
  simp [keys, get?, List.find?_isSome]

end Table

end DhcpRelay
