import DhcpRelay.Agent.Statistics
import DhcpRelay.Proofs.Table
import Mathlib.Algebra.BigOperators.Group.List.Basic
import Mathlib.Algebra.GroupWithZero.Nat

/-!
# Counters of all interfaces

The total of a counter is its sum over the interfaces.  Raising a counter somewhere raises
its total by as much, and no other total.
-/

namespace DhcpRelay.Statistics

/-- The sum of a counter over all interfaces. -/
def total (statistics : Statistics) (counter : Counter) : Nat :=
  (statistics.interfaces.map fun interface => statistics.value interface counter).sum

variable {statistics : Statistics}

theorem value_add (statistics : Statistics) (interface other : String)
    (counter counted : Counter) (amount : Nat) :
    (statistics.add interface counter amount).value other counted =
      statistics.value other counted +
        if interface = other ∧ counter = counted then amount else 0 := by
  by_cases here : interface = other
  · subst here
    by_cases same : counter = counted
    · subst same
      rw [value_add_self, if_pos ⟨rfl, rfl⟩]
    · rw [value_add_of_ne_counter _ _ _ (Ne.symm same), if_neg fun both => same both.2]
      rfl
  · rw [value_add_of_ne_interface _ _ _ _ (Ne.symm here), if_neg fun both => here both.1]
    rfl

theorem countersOf_touch (statistics : Statistics) (interface other : String) :
    (statistics.touch interface).countersOf other = statistics.countersOf other := by
  rw [touch]
  split
  · rfl
  · rename_i absent
    have none : statistics.get? interface = none := by simpa [Table.contains] using absent
    rw [countersOf, countersOf, Table.get?_put]
    split
    · rename_i same
      rw [same, none]
      rfl
    · rfl

@[simp] theorem value_touch (statistics : Statistics) (interface other : String)
    (counter : Counter) :
    (statistics.touch interface).value other counter = statistics.value other counter := by
  rw [value, value, countersOf_touch]

/-! ## Totals -/

theorem total_eq_sum_entries (statistics : Statistics) (counter : Counter) :
    statistics.total counter = (statistics.entries.map fun entry => entry.2.value counter).sum := by
  have sorted : statistics.interfaces.Perm statistics.keys := List.mergeSort_perm ..
  rw [total, (sorted.map _).sum_eq, Table.keys, List.map_map]
  congr 1
  refine List.map_congr_left fun entry member => ?_
  have stored : statistics.get? entry.1 = some entry.2 := Table.mem_entries_iff.1 member
  rw [Function.comp_apply, value, countersOf, stored]
  rfl

/-- Storing counters replaces what the interface counted before. -/
theorem total_put (statistics : Statistics) (interface : String) (counters : Counters)
    (counter : Counter) :
    total (statistics.put interface counters) counter + statistics.value interface counter =
      statistics.total counter + counters.value counter := by
  have stored : total (statistics.put interface counters) counter =
      counters.value counter +
        ((statistics.erase interface).entries.map fun entry => entry.2.value counter).sum :=
    total_eq_sum_entries (statistics.put interface counters) counter
  rw [stored, total_eq_sum_entries, value, countersOf]
  cases present : statistics.get? interface with
  | none =>
      rw [Table.erase_eq_self present, Nat.add_comm (counters.value counter)]
      rfl
  | some old =>
      rw [((Table.perm_cons_erase present).map _).sum_eq, List.map_cons, List.sum_cons,
        Option.getD_some]
      dsimp only
      omega

theorem total_add (statistics : Statistics) (interface : String) (counter counted : Counter)
    (amount : Nat) :
    (statistics.add interface counter amount).total counted =
      statistics.total counted + if counter = counted then amount else 0 := by
  let counters := (statistics.add interface counter amount).countersOf interface
  have stored : statistics.add interface counter amount = statistics.put interface counters := by
    simp only [counters, add, countersOf, Table.get?_put_self, Option.getD_some]
  have raised : counters.value counted =
      statistics.value interface counted + if counter = counted then amount else 0 := by
    have here := value_add statistics interface interface counter counted amount
    simp only [true_and] at here
    exact here
  have replaced := total_put statistics interface counters counted
  rw [raised] at replaced
  rw [stored]
  omega

@[simp] theorem total_touch (statistics : Statistics) (interface : String) (counter : Counter) :
    (statistics.touch interface).total counter = statistics.total counter := by
  rw [touch]
  split
  · rfl
  · rename_i absent
    have none : statistics.get? interface = none := by simpa [Table.contains] using absent
    have replaced := total_put statistics interface .empty counter
    rw [value, countersOf, none] at replaced
    exact replaced

end DhcpRelay.Statistics
