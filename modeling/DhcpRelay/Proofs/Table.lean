import DhcpRelay.Table
import Mathlib.Data.List.Nodup

/-!
# Counting in tables

`tally` counts the keys whose values have a property.  Storing a value and
erasing a key change it by what the key counted before and counts afterwards.
-/

namespace DhcpRelay.Table

variable {Key Value : Type}

/-- The number of keys whose values have a property. -/
def tally (table : Table Key Value) (holds : Value → Bool) : Nat :=
  table.entries.countP fun entry => holds entry.2

theorem tally_le_size (table : Table Key Value) (holds : Value → Bool) :
    table.tally holds ≤ table.size :=
  List.countP_le_length

variable [DecidableEq Key]

theorem get?_erase (table : Table Key Value) (key other : Key) :
    (table.erase key).get? other = if other = key then none else table.get? other := by
  by_cases same : other = key
  · rw [if_pos same, same, get?_erase_self]
  · rw [if_neg same, get?_erase_of_ne table same]

theorem get?_put (table : Table Key Value) (key other : Key) (value : Value) :
    (table.put key value).get? other = if other = key then some value else table.get? other := by
  by_cases same : other = key
  · rw [if_pos same, same, get?_put_self]
  · rw [if_neg same, get?_put_of_ne table value same]

/-- What is left after erasing was there before. -/
theorem get?_eq_of_get?_erase {table : Table Key Value} {key other : Key} {value : Value}
    (left : (table.erase key).get? other = some value) : table.get? other = some value := by
  by_cases same : other = key
  · rw [same, get?_erase_self] at left
    cases left
  · exact (get?_erase_of_ne table same).symm.trans left

theorem mem_entries_iff {table : Table Key Value} {key : Key} {value : Value} :
    (key, value) ∈ table.entries ↔ table.get? key = some value := by
  constructor
  · intro member
    have some : (table.entries.find? (·.1 == key)).isSome :=
      List.find?_isSome.2 ⟨(key, value), member, beq_self_eq_true key⟩
    rcases Option.isSome_iff_exists.1 some with ⟨found, present⟩
    have sameKey : found.1 = key := by simpa using List.find?_some present
    have equal : found = (key, value) :=
      List.inj_on_of_nodup_map table.nodup_keys (List.mem_of_find?_eq_some present) member sameKey
    rw [get?, present, equal]
    rfl
  · intro stored
    rcases Option.map_eq_some_iff.1 stored with ⟨⟨found, stored⟩, present, rfl⟩
    have sameKey : found = key := by simpa using List.find?_some present
    exact sameKey ▸ List.mem_of_find?_eq_some present

/-- Only what is stored counts, not the order of the entries. -/
theorem tally_congr {table other : Table Key Value}
    (same : ∀ key, table.get? key = other.get? key) (holds : Value → Bool) :
    table.tally holds = other.tally holds := by
  have perm : table.entries.Perm other.entries := by
    apply (List.perm_ext_iff_of_nodup table.nodup_keys.of_map other.nodup_keys.of_map).2
    rintro ⟨key, value⟩
    rw [mem_entries_iff, mem_entries_iff, same key]
  exact perm.countP_eq _

/-- A key without value has nothing to erase. -/
theorem erase_eq_self {table : Table Key Value} {key : Key} (absent : table.get? key = none) :
    table.erase key = table := by
  rcases table with ⟨entries, nodup⟩
  have kept : entries.filter (·.1 != key) = entries := by
    rw [List.filter_eq_self]
    intro entry member
    have other := List.find?_eq_none.1 (Option.map_eq_none_iff.1 absent) entry member
    simpa using other
  simp only [erase, kept]

/-- The entry of a key stands beside what is left without it. -/
theorem perm_cons_erase {table : Table Key Value} {key : Key} {value : Value}
    (present : table.get? key = some value) :
    table.entries.Perm ((key, value) :: (table.erase key).entries) := by
  have nodup : ((key, value) :: (table.erase key).entries).Nodup :=
    (table.put key value).nodup_keys.of_map
  refine (List.perm_ext_iff_of_nodup table.nodup_keys.of_map nodup).2 ?_
  rintro ⟨other, found⟩
  rw [List.mem_cons, mem_entries_iff, mem_entries_iff, get?_erase, Prod.mk.injEq]
  by_cases same : other = key
  · rw [if_pos same, same, present, Option.some.injEq]
    simp [eq_comm]
  · simp [same]

theorem tally_erase {table : Table Key Value} {key : Key} {value : Value}
    (present : table.get? key = some value) (holds : Value → Bool) :
    (table.erase key).tally holds + (holds value).toNat = table.tally holds := by
  rw [tally, tally, (perm_cons_erase present).countP_eq, List.countP_cons]
  cases holds value <;> rfl

theorem tally_put (table : Table Key Value) (key : Key) (value : Value) (holds : Value → Bool) :
    (table.put key value).tally holds =
      (table.erase key).tally holds + (holds value).toNat := by
  simp only [tally, put, List.countP_cons]
  cases holds value <;> rfl

/-- The count changes by what the key counted before and what it counts now. -/
theorem tally_put_of_get? {table : Table Key Value} {key : Key} {old : Value}
    (present : table.get? key = some old) (value : Value) (holds : Value → Bool) :
    (table.put key value).tally holds + (holds old).toNat =
      table.tally holds + (holds value).toNat := by
  rw [tally_put, ← tally_erase present holds]
  omega

theorem tally_put_of_get?_none {table : Table Key Value} {key : Key}
    (absent : table.get? key = none) (value : Value) (holds : Value → Bool) :
    (table.put key value).tally holds = table.tally holds + (holds value).toNat := by
  rw [tally_put, erase_eq_self absent]

/-- Only keys whose values have the property count. -/
theorem tally_pos_iff {table : Table Key Value} {holds : Value → Bool} :
    0 < table.tally holds ↔ ∃ key value, table.get? key = some value ∧ holds value = true := by
  simp only [tally, List.countP_pos_iff, Prod.exists, mem_entries_iff]

/-- The count is the number of all those keys. -/
theorem tally_eq_length {table : Table Key Value} {holds : Value → Bool} {keys : List Key}
    (distinct : keys.Nodup)
    (mem_iff : ∀ key, key ∈ keys ↔ ∃ value, table.get? key = some value ∧ holds value = true) :
    table.tally holds = keys.length := by
  have counted : table.tally holds =
      ((table.entries.filter fun entry => holds entry.2).map Prod.fst).length := by
    rw [List.length_map, tally, List.countP_eq_length_filter]
  have nodup : ((table.entries.filter fun entry => holds entry.2).map Prod.fst).Nodup :=
    (List.filter_sublist.map Prod.fst).nodup table.nodup_keys
  rw [counted]
  refine ((List.perm_ext_iff_of_nodup nodup distinct).2 fun key => ?_).length_eq
  rw [mem_iff]
  constructor
  · intro member
    rcases List.mem_map.1 member with ⟨⟨_, value⟩, among, rfl⟩
    rcases List.mem_filter.1 among with ⟨stored, counts⟩
    exact ⟨value, mem_entries_iff.1 stored, counts⟩
  · intro present
    rcases present with ⟨value, stored, counts⟩
    exact List.mem_map.2 ⟨(key, value), List.mem_filter.2 ⟨mem_entries_iff.2 stored, counts⟩, rfl⟩

end DhcpRelay.Table
