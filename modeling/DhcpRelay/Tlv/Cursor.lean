import DhcpRelay.Tlv.Walk

/-!
# A cursor over an option area

The cursor yields the options of an area one at a time.  It stops at the end of
the area, at the end marker or at a truncated option, and starts over on
`reset`.
-/

namespace DhcpRelay

/-- The fault of an option area. -/
inductive OptionFault where
  | truncated (offset : Nat)
  deriving DecidableEq, Repr

namespace OptionFault

/-- The text of a fault. -/
def message : OptionFault → String
  | truncated offset => s!"option at offset {offset} overruns the buffer"

end OptionFault

namespace Cursor

/-- Whether a cursor goes on. -/
inductive Phase where
  | running
  /-- The area was read to its end or to the end marker at `marker`. -/
  | ended (marker : Option Nat)
  /-- A truncated option was met. -/
  | failed
  deriving DecidableEq, Repr

end Cursor

/-- A position in an option area; `rest` is the area from there on. -/
structure Cursor where
  framing : Framing
  area : Bytes
  position : Nat
  rest : Bytes
  phase : Cursor.Phase
  deriving DecidableEq, Repr

namespace Cursor

/-- A cursor at the start of an area. -/
def start (framing : Framing) (area : Bytes) : Cursor :=
  ⟨framing, area, 0, area, .running⟩

/-- Go back to the first option. -/
def reset (cursor : Cursor) : Cursor :=
  start cursor.framing cursor.area

/-- The offset of the end marker, once it was met. -/
def endMarker (cursor : Cursor) : Option Nat :=
  match cursor.phase with
  | .ended marker => marker
  | _ => none

/-- The next option or fault, and the cursor behind it.  At the end marker and
at a truncated option the cursor stays in front of them, behind the padding. -/
def next (cursor : Cursor) : Option (Except OptionFault Tlv) × Cursor :=
  match cursor.phase with
  | .ended _ => (none, cursor)
  | .failed => (none, cursor)
  | .running =>
      match cursor.framing.read cursor.rest with
      | .exhausted padding =>
          (none, { cursor with
            position := cursor.position + padding
            rest := cursor.rest.drop padding
            phase := .ended none })
      | .marker padding =>
          (none, { cursor with
            position := cursor.position + padding
            rest := cursor.rest.drop padding
            phase := .ended (some (cursor.position + padding)) })
      | .truncated padding =>
          (some (.error (.truncated (cursor.position + padding))), { cursor with
            position := cursor.position + padding
            rest := cursor.rest.drop padding
            phase := .failed })
      | .option padding code value rest =>
          let offset := cursor.position + padding
          let stop := offset + cursor.framing.headerSize + value.length
          (some (.ok ⟨padding, offset, stop, code, value⟩), { cursor with
            position := stop
            rest := rest })

theorem length_rest_lt_of_next {cursor : Cursor} {option : Tlv}
    (found : cursor.next.1 = some (.ok option)) :
    cursor.next.2.rest.length < cursor.rest.length := by
  unfold next at found ⊢
  split at found
  · simp at found
  · simp at found
  · rename_i running
    simp only [running]
    split at found
    · simp at found
    · simp at found
    · simp at found
    · rename_i reading
      exact Framing.length_rest_lt_of_read reading

/-- All options up to the end or to a fault, and the cursor behind them. -/
def drain (cursor : Cursor) : List (Except OptionFault Tlv) × Cursor :=
  match _found : cursor.next.1 with
  | none => ([], cursor.next.2)
  | some (.error fault) => ([.error fault], cursor.next.2)
  | some (.ok option) =>
      let (later, last) := cursor.next.2.drain
      (.ok option :: later, last)
termination_by cursor.rest.length
decreasing_by exact length_rest_lt_of_next _found

end Cursor

end DhcpRelay
