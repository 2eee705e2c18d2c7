import DhcpRelay.Bytes

/-!
# Options and their two framings

DHCPv4 options are a code byte, a length byte and a value; a lone zero byte is
padding and a lone 255 ends the area.  DHCPv6 options are a code word, a length
word and a value, with neither padding nor end marker.

`Framing.read` says what the bytes at an option boundary hold.  Everything that
looks at options goes through it.
-/

namespace DhcpRelay

/-- An option found in an area.  `offset` is the position of its code within the
area, `stop` the position after its value, and `padding` the count of padding
bytes right before it. -/
structure Tlv where
  padding : Nat
  offset : Nat
  stop : Nat
  code : UInt16
  value : Bytes
  deriving DecidableEq, Repr

namespace Tlv

/-- The option as it is written in a DHCPv4 area. -/
def encode4 (code : UInt8) (value : Bytes) : Bytes :=
  code :: UInt8.ofNat value.length :: value

/-- The option as it is written in a DHCPv6 area.  The length word holds the low
sixteen bits of the length. -/
def encode6 (code : UInt16) (value : Bytes) : Bytes :=
  Bytes.ofWord16 code ++ Bytes.ofWord16 (UInt16.ofNat value.length) ++ value

end Tlv

/-- The option code of padding. -/
def padCode : UInt8 := 0

/-- The option code that ends a DHCPv4 area. -/
def endCode : UInt8 := 255

/-- How the options of an area are delimited. -/
inductive Framing where
  | dhcp4
  | dhcp6
  deriving DecidableEq, Repr

/-- What an area holds from some option boundary on.  Each case counts the
padding bytes in front. -/
inductive Reading where
  /-- Nothing is left. -/
  | exhausted (padding : Nat)
  /-- The end marker. -/
  | marker (padding : Nat)
  /-- An option that is longer than what is left. -/
  | truncated (padding : Nat)
  /-- An option and the bytes after it. -/
  | option (padding : Nat) (code : UInt16) (value rest : Bytes)
  deriving DecidableEq, Repr

namespace Framing

/-- The bytes in front of an option's value. -/
def headerSize : Framing → Nat
  | dhcp4 => 2
  | dhcp6 => 4

/-- Read on from a boundary of a DHCPv4 area that `padding` zero bytes precede. -/
def read4 (padding : Nat) : Bytes → Reading
  | [] => .exhausted padding
  | code :: rest =>
      if code = padCode then
        read4 (padding + 1) rest
      else if code = endCode then
        .marker padding
      else
        match rest with
        | [] => .truncated padding
        | length :: rest =>
            match Bytes.splitExactly length.toNat rest with
            | some (value, rest) => .option padding code.toUInt16 value rest
            | none => .truncated padding

/-- Read on from a boundary of a DHCPv6 area. -/
def read6 : Bytes → Reading
  | [] => .exhausted 0
  | codeHigh :: codeLow :: lengthHigh :: lengthLow :: rest =>
      match Bytes.splitExactly (Bytes.word16 lengthHigh lengthLow).toNat rest with
      | some (value, rest) => .option 0 (Bytes.word16 codeHigh codeLow) value rest
      | none => .truncated 0
  | _ => .truncated 0

/-- Read on from a boundary. -/
def read : Framing → Bytes → Reading
  | dhcp4, area => read4 0 area
  | dhcp6, area => read6 area

theorem length_rest_of_read4 {padding start : Nat} {area value rest : Bytes} {code : UInt16}
    (reading : read4 start area = .option padding code value rest) :
    rest.length + value.length + 2 + padding = area.length + start := by
  fun_induction read4 start area with
  | case1 => simp at reading
  | case2 start rest ih =>
      simp only [List.length_cons]
      have := ih reading
      omega
  | case3 => simp at reading
  | case4 => simp at reading
  | case5 start code _ _ length area taken remaining split =>
      simp only [Reading.option.injEq] at reading
      obtain ⟨rfl, _, rfl, rfl⟩ := reading
      obtain ⟨rfl, _⟩ := Bytes.splitExactly_eq_some_iff.1 split
      simp only [List.length_cons, List.length_append]
      omega
  | case6 => simp at reading

theorem length_rest_of_read6 {padding : Nat} {area value rest : Bytes} {code : UInt16}
    (reading : read6 area = .option padding code value rest) :
    rest.length + value.length + 4 + padding = area.length := by
  unfold read6 at reading
  split at reading
  · simp at reading
  · split at reading
    · rename_i split
      simp only [Reading.option.injEq] at reading
      obtain ⟨rfl, _, rfl, rfl⟩ := reading
      obtain ⟨rfl, _⟩ := Bytes.splitExactly_eq_some_iff.1 split
      simp only [List.length_cons, List.length_append]
      omega
    · simp at reading
  · simp at reading

/-- An option takes up its padding, its header and its value. -/
theorem length_rest_of_read {framing : Framing} {padding : Nat} {area value rest : Bytes}
    {code : UInt16} (reading : framing.read area = .option padding code value rest) :
    rest.length + value.length + framing.headerSize + padding = area.length := by
  cases framing with
  | dhcp4 => simpa [headerSize] using length_rest_of_read4 reading
  | dhcp6 => exact length_rest_of_read6 reading

theorem length_rest_lt_of_read {framing : Framing} {padding : Nat} {area value rest : Bytes}
    {code : UInt16} (reading : framing.read area = .option padding code value rest) :
    rest.length < area.length := by
  have consumed := length_rest_of_read reading
  have header : 0 < framing.headerSize := by cases framing <;> decide
  omega

end Framing

end DhcpRelay
