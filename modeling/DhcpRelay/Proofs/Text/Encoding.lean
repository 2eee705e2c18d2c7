import DhcpRelay.Bytes

/-!
# The bytes of a text

Bytes are the UTF-8 form of at most one text.  The first bytes of a text are, if they are a text
at all, its first characters, and the end of a line is no part of any other character.
-/

namespace DhcpRelay.Text

/-- The UTF-8 form of a text. -/
def bytes (text : String) : Bytes :=
  text.toUTF8.data.toList

variable {text front : String} {encoded : Bytes}

@[simp] theorem length_bytes (text : String) : (bytes text).length = text.utf8ByteSize := by
  rw [bytes, Array.length_toList]
  exact String.size_toByteArray

theorem bytes_append (front back : String) : bytes (front ++ back) = bytes front ++ bytes back := by
  simp only [bytes, String.toUTF8_eq_toByteArray, String.toByteArray_append,
    ByteArray.data_append, Array.toList_append]

/-- Bytes are read as the text whose UTF-8 form they are. -/
theorem fromUTF8?_eq_some_iff :
    String.fromUTF8? ⟨encoded.toArray⟩ = some text ↔ bytes text = encoded := by
  rw [String.fromUTF8?]
  constructor
  · intro read
    split at read
    · cases read
      rfl
    · cases read
  · rintro rfl
    have valid : (ByteArray.mk (bytes text).toArray).IsValidUTF8 := text.isValidUTF8
    rw [dif_pos valid]
    rfl

theorem bytes_injective {left right : String} (same : bytes left = bytes right) :
    left = right := by
  have read := fromUTF8?_eq_some_iff.2 same
  rw [fromUTF8?_eq_some_iff.2 rfl] at read
  exact (Option.some.inj read).symm

/-! ## Fronts of texts -/

/-- Two ways to cut a text in two. -/
theorem append_eq_append_iff {front back other rest : String} :
    front ++ back = other ++ rest ↔
      (∃ middle, other = front ++ middle ∧ back = middle ++ rest) ∨
        ∃ middle, front = other ++ middle ∧ rest = middle ++ back := by
  constructor
  · intro same
    have chars := congrArg String.toList same
    rw [String.toList_append, String.toList_append] at chars
    rcases List.append_eq_append_iff.1 chars with ⟨middle, first, second⟩ | ⟨middle, first, second⟩
    · left
      refine ⟨String.ofList middle, ?_, ?_⟩
      · rw [← String.toList_inj, first, String.toList_append, String.toList_ofList]
      · rw [← String.toList_inj, second, String.toList_append, String.toList_ofList]
    · right
      refine ⟨String.ofList middle, ?_, ?_⟩
      · rw [← String.toList_inj, first, String.toList_append, String.toList_ofList]
      · rw [← String.toList_inj, second, String.toList_append, String.toList_ofList]
  · rintro (⟨middle, rfl, rfl⟩ | ⟨middle, rfl, rfl⟩) <;> rw [String.append_assoc]

/-- What a text begins with is part of a longer front of it. -/
theorem exists_middle_of_append {start rest front back : String}
    (same : start ++ rest = front ++ back) (longer : start.utf8ByteSize < front.utf8ByteSize) :
    ∃ middle, middle ≠ "" ∧ front = start ++ middle ∧ rest = middle ++ back := by
  rcases append_eq_append_iff.1 same with ⟨middle, rfl, rest⟩ | ⟨middle, rfl, _⟩
  · refine ⟨middle, ?_, rfl, rest⟩
    rintro rfl
    rw [String.append_empty] at longer
    exact absurd longer (Nat.lt_irrefl _)
  · rw [String.utf8ByteSize_append] at longer
    omega

/-- A text whose bytes come first is a front of the text. -/
theorem exists_append_of_bytes {rest : Bytes} (begins : bytes front ++ rest = bytes text) :
    ∃ back, text = front ++ back := by
  have encoded : front.toList.utf8Encode ++ ⟨rest.toArray⟩ = text.toList.utf8Encode := by
    rw [String.utf8Encode_toList, String.utf8Encode_toList]
    apply ByteArray.ext
    apply Array.ext'
    rw [ByteArray.data_append, Array.toList_append]
    exact begins
  rcases List.isPrefix_of_utf8Encode_append_eq_utf8Encode _ encoded with ⟨back, whole⟩
  refine ⟨String.ofList back, ?_⟩
  rw [← String.toList_inj, String.toList_append, String.toList_ofList, whole]

/-! ## Ends of lines -/

/-- A byte below 128 is a character of its own. -/
theorem toNat_eq_of_mem_utf8EncodeChar {char : Char} {byte : UInt8} (small : byte.toNat < 128)
    (member : byte ∈ String.utf8EncodeChar char) : char.toNat = byte.toNat := by
  -- The bytes of a character that has more than one have their highest bit set.
  have multiple (values : List Nat) (high : ∀ value ∈ values, 128 ≤ value ∧ value < 256) :
      byte ∉ values.map UInt8.ofNat := by
    intro member
    rcases List.mem_map.1 member with ⟨value, among, rfl⟩
    have bounds := high value among
    rw [UInt8.toNat_ofNat_of_lt' bounds.2] at small
    omega
  rw [String.utf8EncodeChar.eq_1] at member
  split at member
  · rename_i single
    rw [List.mem_singleton] at member
    rw [member, UInt8.toNat_ofNat_of_lt' (Nat.lt_of_le_of_lt single (by decide))]
    rfl
  · exfalso
    split at member
    · exact multiple [_, _] (by grind) member
    · split at member
      · exact multiple [_, _, _] (by grind) member
      · exact multiple [_, _, _, _] (by grind) member

/-- The end of a line stands only where the character does. -/
theorem newline_not_mem_bytes (single : '\n' ∉ text.toList) : (10 : UInt8) ∉ bytes text := by
  intro member
  have encoded : bytes text = text.toList.flatMap String.utf8EncodeChar := by
    rw [bytes, String.toUTF8_eq_toByteArray, ← String.utf8Encode_toList, List.utf8Encode,
      List.data_toByteArray]
  rw [encoded] at member
  rcases List.mem_flatMap.1 member with ⟨char, among, inside⟩
  have code := toNat_eq_of_mem_utf8EncodeChar (by decide) inside
  have newline : char = '\n' := by
    rw [← Char.ofNat_toNat char, code]
    rfl
  exact single (newline ▸ among)

end DhcpRelay.Text
