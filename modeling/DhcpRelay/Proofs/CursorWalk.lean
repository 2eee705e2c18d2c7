import DhcpRelay.Proofs.OptionArea
import DhcpRelay.Proofs.OptionLayout
import DhcpRelay.Tlv.Cursor

/-!
# Cursors and walks

A cursor that is drained yields the options of the walk over its area, and then
the fault if the area is cut short.  Behind them it stands at the end marker if the
walk does.
-/

namespace DhcpRelay

/-- Where the end marker stands, if there is one. -/
def Ending.marker? : Ending → Option Nat
  | .marker _ offset => some offset
  | _ => none

/-- The options of a walk as a cursor yields them, with the fault that ends them. -/
def Walk.items (walk : Walk) : List (Except OptionFault Tlv) :=
  walk.options.map .ok ++ walk.truncation?.toList.map fun offset => .error (.truncated offset)

/-- What ends in a fault is not a list of values alone. -/
theorem append_error_ne_map_ok {Value : Type} (front : List (Except OptionFault Value))
    (fault : OptionFault) (values : List Value) : front ++ [.error fault] ≠ values.map .ok := by
  intro same
  have member : Except.error fault ∈ values.map Except.ok := by
    rw [← same]
    exact List.mem_append_right _ (List.mem_singleton_self _)
  simp at member

namespace Cursor

theorem drain_of_none {cursor : Cursor} (found : cursor.next.1 = none) :
    cursor.drain = ([], cursor.next.2) := by
  rw [drain]
  split <;> simp_all

theorem drain_of_error {cursor : Cursor} {fault : OptionFault}
    (found : cursor.next.1 = some (.error fault)) :
    cursor.drain = ([.error fault], cursor.next.2) := by
  rw [drain]
  split <;> simp_all

theorem drain_of_ok {cursor : Cursor} {option : Tlv} (found : cursor.next.1 = some (.ok option)) :
    cursor.drain = (.ok option :: cursor.next.2.drain.1, cursor.next.2.drain.2) := by
  rw [drain]
  split <;> simp_all

/-- From wherever a running cursor stands it yields the rest of the walk, and it ends where the
walk does. -/
theorem drain_of_running {cursor : Cursor} (running : cursor.phase = .running) :
    let walk := cursor.framing.walkFrom cursor.position cursor.rest
    cursor.drain.1 = walk.items ∧ cursor.drain.2.endMarker = walk.ending.marker? := by
  intro walk
  induction size : cursor.rest.length using Nat.strongRecOn generalizing cursor with
  | ind count ih =>
      have walked : walk = cursor.framing.walkOf cursor.position (cursor.framing.read cursor.rest) :=
        Framing.walkFrom_eq_walkOf _ _ _
      rw [walked]
      cases reading : cursor.framing.read cursor.rest with
      | exhausted padding =>
          let behind : Cursor := { cursor with
            position := cursor.position + padding
            rest := cursor.rest.drop padding
            phase := .ended none }
          have step : cursor.next = (none, behind) := by simp [next, running, reading, behind]
          rw [drain_of_none (congrArg Prod.fst step), step]
          exact ⟨rfl, rfl⟩
      | marker padding =>
          let behind : Cursor := { cursor with
            position := cursor.position + padding
            rest := cursor.rest.drop padding
            phase := .ended (some (cursor.position + padding)) }
          have step : cursor.next = (none, behind) := by simp [next, running, reading, behind]
          rw [drain_of_none (congrArg Prod.fst step), step]
          exact ⟨rfl, rfl⟩
      | truncated padding =>
          let offset := cursor.position + padding
          let behind : Cursor := { cursor with
            position := offset
            rest := cursor.rest.drop padding
            phase := .failed }
          have step : cursor.next = (some (.error (.truncated offset)), behind) := by
            simp [next, running, reading, offset, behind]
          rw [drain_of_error (congrArg Prod.fst step), step]
          exact ⟨rfl, rfl⟩
      | option padding code value rest =>
          have shorter : rest.length < count := size ▸ Framing.length_rest_lt_of_read reading
          let start := cursor.position + padding
          let stop := start + cursor.framing.headerSize + value.length
          let behind : Cursor := { cursor with position := stop, rest := rest }
          have step : cursor.next = (some (.ok ⟨padding, start, stop, code, value⟩), behind) := by
            simp [next, running, reading, start, stop, behind]
          let remaining := behind.framing.walkFrom stop rest
          have later : behind.drain.1 = remaining.items ∧
              behind.drain.2.endMarker = remaining.ending.marker? :=
            ih rest.length shorter running rfl
          rw [drain_of_ok (congrArg Prod.fst step), step, later.1]
          exact ⟨rfl, later.2⟩

/-- Draining a cursor over a whole area gives the options of its walk. -/
theorem drain_start (framing : Framing) (area : Bytes) :
    (start framing area).drain.1 = (framing.walk area).items :=
  (drain_of_running rfl).1

/-- The cursor remembers the end marker. -/
theorem endMarker_drain_start (framing : Framing) (area : Bytes) :
    (start framing area).drain.2.endMarker = (framing.walk area).ending.marker? :=
  (drain_of_running rfl).2

/-- A cursor yields these codes and values, and no fault, exactly if they are
what the area holds. -/
theorem map_drain_start_iff {framing : Framing} {area : Bytes} {pairs : List (UInt16 × Bytes)} :
    (start framing area).drain.1.map (·.map Tlv.pair) = pairs.map .ok ↔
      framing.contents area = ⟨pairs, false⟩ := by
  rw [drain_start, Walk.items, List.map_append, Framing.contents, Walk.contents_eq_iff]
  cases cut : (framing.walk area).truncation? with
  | none =>
      have read : (framing.walk area).options.map (Except.map Tlv.pair ∘ .ok) =
          (framing.walk area).pairs.map (Except.ok (ε := OptionFault)) := by
        rw [Walk.pairs, List.map_map]
        rfl
      rw [Option.toList_none, List.map_nil, List.map_nil, List.append_nil, List.map_map, read,
        List.map_inj_right (by simp)]
      simp
  | some offset =>
      constructor
      · intro equal
        exact absurd equal (append_error_ne_map_ok _ (.truncated offset) pairs)
      · intro same
        rcases same with ⟨complete, _⟩
        simp at complete

end Cursor

end DhcpRelay
