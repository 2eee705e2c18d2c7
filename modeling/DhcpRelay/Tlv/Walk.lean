import DhcpRelay.Tlv.Basic

/-!
# Walking an option area

A walk is the list of options of an area together with the way the area ends.
It is the view of an area on which option rules are stated.
-/

namespace DhcpRelay

/-- How a walk over an area ends. -/
inductive Ending where
  /-- All bytes were read; `padding` of them came after the last option. -/
  | exhausted (padding : Nat)
  /-- The end marker stands at `offset`, behind `padding` padding bytes. -/
  | marker (padding offset : Nat)
  /-- The option at `offset` is longer than the area. -/
  | truncated (offset : Nat)
  deriving DecidableEq, Repr

/-- The padding between the last option and the end. -/
def Ending.padding : Ending → Nat
  | .exhausted padding => padding
  | .marker padding _ => padding
  | .truncated _ => 0

/-- The options of an area and its ending. -/
structure Walk where
  options : List Tlv
  ending : Ending
  deriving DecidableEq, Repr

namespace Framing

/-- Walk over what is left of an area at `offset`. -/
def walkFrom (framing : Framing) (offset : Nat) (area : Bytes) : Walk :=
  match _reading : framing.read area with
  | .exhausted padding => ⟨[], .exhausted padding⟩
  | .marker padding => ⟨[], .marker padding (offset + padding)⟩
  | .truncated padding => ⟨[], .truncated (offset + padding)⟩
  | .option padding code value rest =>
      let start := offset + padding
      let stop := start + framing.headerSize + value.length
      let later := framing.walkFrom stop rest
      ⟨⟨padding, start, stop, code, value⟩ :: later.options, later.ending⟩
termination_by area.length
decreasing_by exact length_rest_lt_of_read _reading

/-- Walk over a whole area. -/
def walk (framing : Framing) (area : Bytes) : Walk :=
  framing.walkFrom 0 area

end Framing

namespace Walk

/-- The codes and values of the options, in order. -/
def pairs (walk : Walk) : List (UInt16 × Bytes) :=
  walk.options.map fun option => (option.code, option.value)

/-- The offset of the option that ends the walk early, if one does. -/
def truncation? (walk : Walk) : Option Nat :=
  match walk.ending with
  | .truncated offset => some offset
  | _ => none

/-- The options as far as they can be read, the first of code `code`. -/
def find? (walk : Walk) (code : UInt16) : Option Tlv :=
  walk.options.find? (·.code == code)

end Walk

end DhcpRelay
