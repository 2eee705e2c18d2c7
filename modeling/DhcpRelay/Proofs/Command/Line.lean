import DhcpRelay.Command.Basic
import DhcpRelay.Proofs.Text.Decimal
import DhcpRelay.Proofs.Text.Encoding
import DhcpRelay.Proofs.Text.Words

/-!
# Commands and their lines

Only what is a word can be written as the interface of a command, and a port only behind an
interface.  These are the commands that can be read, and each of them is read from its own line.
-/

namespace DhcpRelay.Command

open Text

/-- The interface that a command names. -/
def interface? : Command → Option String
  | dump interface _ => interface
  | dump6 interface => interface
  | stats => none

/-- The port that a command names. -/
def port? : Command → Option UInt16
  | dump _ port => port
  | dump6 _ => none
  | stats => none

/-- The interface, if there is one, is a word, and no port is given without it. -/
structure IsWritable (command : Command) : Prop where
  isWord : ∀ interface, command.interface? = some interface → IsWord interface.toList
  placed : command.interface? = none → command.port? = none

/-- The words of a command, with its port written in any way. -/
inductive Spells : List String → Command → Prop where
  | dump : Spells ["dump"] (dump none none)
  | dumpInterface (interface : String) :
      Spells ["dump", interface] (dump (some interface) none)
  | dumpPort (interface : String) {written : String} {port : UInt16}
      (numeral : Decimal.IsNumeral port.toNat written.toList) :
      Spells ["dump", interface, written] (dump (some interface) (some port))
  | dump6 : Spells ["dump6"] (dump6 none)
  | dump6Interface (interface : String) : Spells ["dump6", interface] (dump6 (some interface))
  | stats : Spells ["stats"] stats

/-- The words of the line of a command. -/
def parts : Command → List String
  | dump (some interface) (some port) => ["dump", interface, Decimal.text port.toNat]
  | dump (some interface) none => ["dump", interface]
  | dump none _ => ["dump"]
  | dump6 (some interface) => ["dump6", interface]
  | dump6 none => ["dump6"]
  | stats => ["stats"]

variable {command : Command} {words : List String}

theorem isWord_text (value : Nat) : IsWord (Decimal.text value).toList := by
  rw [Decimal.text, String.toList_ofList]
  exact ⟨Decimal.digits_ne_nil value, Decimal.forall_mem_digits (by decide)⟩

theorem words_line (writable : command.IsWritable) : Text.words command.line = command.parts := by
  have isWord := writable.isWord
  have dumpWord : IsWord "dump".toList := by decide
  have dump6Word : IsWord "dump6".toList := by decide
  rcases command with ⟨_ | interface, port⟩ | ⟨_ | interface⟩ | _
  · exact words_of_isWord dumpWord
  · have named := isWord interface rfl
    cases port with
    | none =>
        rw [line, parts, show "dump " = "dump" ++ " " from rfl, words_append_blank dumpWord,
          words_of_isWord named]
    | some port =>
        rw [line, parts, show "dump " = "dump" ++ " " from rfl, String.append_assoc,
          String.append_assoc, words_append_blank dumpWord, ← String.append_assoc,
          words_append_blank named, words_of_isWord (isWord_text port.toNat)]
  · exact words_of_isWord dump6Word
  · rw [line, parts, show "dump6 " = "dump6" ++ " " from rfl, words_append_blank dump6Word,
      words_of_isWord (isWord interface rfl)]
  · exact words_of_isWord (by decide)

theorem spells_parts (placed : command.interface? = none → command.port? = none) :
    Spells command.parts command := by
  rcases command with ⟨_ | interface, _ | port⟩ | ⟨_ | interface⟩ | _
  · exact .dump
  · cases placed rfl
  · exact .dumpInterface interface
  · exact .dumpPort interface (Decimal.isNumeral_text port.toNat)
  · exact .dump6
  · exact .dump6Interface interface
  · exact .stats

theorem ofWords_eq_ok_iff : ofWords words = .ok command ↔ Spells words command := by
  constructor
  · fun_cases ofWords words with
    | case1 => nofun
    | case2 =>
      rintro ⟨⟩
      exact .dump
    | case3 interface =>
      rintro ⟨⟩
      exact .dumpInterface interface
    | case4 interface written port numeral =>
      rintro ⟨⟩
      exact .dumpPort interface (Decimal.readWord16_eq_some_iff.1 numeral)
    | case5 => nofun
    | case6 =>
      rintro ⟨⟩
      exact .dump6
    | case7 interface =>
      rintro ⟨⟩
      exact .dump6Interface interface
    | case8 =>
      rintro ⟨⟩
      exact .stats
    | case9 => nofun
    | case10 => nofun
  · intro spells
    cases spells with
    | dumpPort interface numeral => rw [ofWords, Decimal.readWord16_eq_some_iff.2 numeral]
    | _ => rfl

theorem isWritable_of_read {written : String} (done : read written = .ok command) :
    command.IsWritable := by
  have isWord := fun word (member : word ∈ Text.words written) => isWord_of_mem_words member
  rw [read, ofWords_eq_ok_iff] at done
  generalize Text.words written = words at done isWord
  cases done with
  | dump | dump6 | stats => exact ⟨nofun, fun _ => rfl⟩
  | dumpInterface interface | dumpPort interface numeral | dump6Interface interface =>
      refine ⟨fun _ named => ?_, nofun⟩
      cases named
      exact isWord interface (.tail _ (.head _))

theorem read_line (writable : command.IsWritable) : read command.line = .ok command := by
  rw [read, words_line writable, ofWords_eq_ok_iff]
  exact spells_parts writable.placed

/-- A command that is read from any line is read again from its own.  The commands that are read
from their own line are those that can be written. -/
theorem line_reads_back :
    (∀ written command, read written = .ok command → read command.line = .ok command) ∧
      ∀ command, read command.line = .ok command ↔ command.IsWritable :=
  ⟨fun _ _ done => read_line (isWritable_of_read done),
    fun _ => ⟨isWritable_of_read, read_line⟩⟩

/-- A line with blanks of several kinds, and a port with a sign and zeros. -/
theorem line_reads_back_paddedPort :
    let written := " dump\teth1 \u2003+0067\r"
    let command := dump (some "eth1") (some 67)
    read written = .ok command ∧ command.line = "dump eth1 67" ∧
      read command.line = .ok command ∧ command.IsWritable := by
  intro written command
  have done : read written = .ok command := by decide +kernel
  have again : read command.line = .ok command := line_reads_back.1 written command done
  exact ⟨done, by decide +kernel, again, (line_reads_back.2 command).1 again⟩

/-- The line of a command is one line. -/
theorem newline_not_mem_line (writable : command.IsWritable) : '\n' ∉ command.line.toList := by
  have solid {word : String} (isWord : IsWord word.toList) : '\n' ∉ word.toList := fun member =>
    absurd (isWord.solid '\n' member) (by decide)
  have isWord := writable.isWord
  rcases command with ⟨_ | interface, port⟩ | ⟨_ | interface⟩ | _
  · rw [line]
    decide
  · have named := solid (isWord interface rfl)
    cases port with
    | none => simpa [line] using named
    | some port => simpa [line] using ⟨named, solid (isWord_text port.toNat)⟩
  · decide
  · simpa [line] using solid (isWord interface rfl)
  · decide

/-! ## Fronts of lines -/

theorem isWritable_dump {interface : String} (isWord : IsWord interface.toList)
    (port : Option UInt16) : (dump (some interface) port).IsWritable :=
  ⟨fun _ named => by cases named; exact isWord, nofun⟩

theorem isWritable_dump6 {interface : String} (isWord : IsWord interface.toList) :
    (dump6 (some interface)).IsWritable :=
  ⟨fun _ named => by cases named; exact isWord, nofun⟩

/-- A front of a port that is written behind a blank ends before the port, or with the digits of
another port. -/
theorem front_of_port {port : UInt16} {front back : String}
    (whole : " " ++ Decimal.text port.toNat = front ++ back) :
    front = "" ∨ front = " " ∨ ∃ shorter : UInt16, front = " " ++ Decimal.text shorter.toNat := by
  rcases append_eq_append_iff.1 whole with ⟨middle, rfl, written⟩ | ⟨middle, blank, _⟩
  · right
    by_cases filled : middle = ""
    · left
      rw [filled, String.append_empty]
    · right
      have digits : middle.toList <+: Decimal.digits port.toNat := by
        refine ⟨back.toList, ?_⟩
        rw [← String.toList_append, ← written, Decimal.text, String.toList_ofList]
      rcases Decimal.exists_digits_of_prefix (mt String.toList_eq_nil_iff.1 filled) digits with
        ⟨first, smaller, same⟩
      have word := Nat.lt_of_le_of_lt smaller port.toNat_lt
      refine ⟨UInt16.ofNat first, ?_⟩
      rw [UInt16.toNat_ofNat_of_lt' word, Decimal.text, same, String.ofList_toList]
  · have chars : [' '] = front.toList ++ middle.toList := by
      rw [← String.toList_append, ← blank]
      rfl
    rcases List.append_eq_singleton_iff.1 chars.symm with ⟨nothing, _⟩ | ⟨single, _⟩
    · exact .inl (String.toList_eq_nil_iff.1 nothing)
    · right
      left
      rw [← String.toList_inj, single]
      rfl

/-- A front of an interface and the rest of a line begins the line of a command. -/
theorem exists_dump_of_front {interface front back : String} {port : UInt16}
    (isWord : IsWord interface.toList) (filled : front ≠ "")
    (whole : interface ++ (" " ++ Decimal.text port.toNat) = front ++ back) :
    ∃ other : Command, other.IsWritable ∧
      ("dump " ++ front = other.line ∨ "dump " ++ front = other.line ++ " ") := by
  rcases append_eq_append_iff.1 whole with ⟨middle, rfl, behind⟩ | ⟨middle, rfl, _⟩
  · rcases front_of_port behind with rfl | rfl | ⟨shorter, rfl⟩
    · refine ⟨dump (some interface) none, isWritable_dump isWord none, .inl ?_⟩
      rw [String.append_empty, line]
    · refine ⟨dump (some interface) none, isWritable_dump isWord none, .inr ?_⟩
      rw [line, String.append_assoc]
    · refine ⟨dump (some interface) (some shorter), isWritable_dump isWord _, .inl ?_⟩
      simp only [line, String.append_assoc]
  · exact ⟨dump (some front) none, isWritable_dump (isWord_of_append filled isWord) none, .inl rfl⟩

/-- A front of the line of a command is the line of a command, perhaps with a blank behind it. -/
theorem exists_line_of_front {front back : String} (writable : command.IsWritable)
    (whole : command.line = front ++ back) (longer : 6 < front.utf8ByteSize) :
    ∃ other : Command, other.IsWritable ∧ (front = other.line ∨ front = other.line ++ " ") := by
  have isWord := writable.isWord
  have size := congrArg String.utf8ByteSize whole
  rw [String.utf8ByteSize_append] at size
  rcases command with ⟨_ | interface, port⟩ | ⟨_ | interface⟩ | _
  · change 4 = _ at size
    omega
  · have named := isWord interface rfl
    have begins : "dump ".utf8ByteSize < front.utf8ByteSize := Nat.lt_of_succ_lt longer
    cases port with
    | none =>
        rcases exists_middle_of_append whole begins with ⟨middle, filled, rfl, rfl⟩
        have word := isWord_of_append filled named
        exact ⟨dump (some middle) none, isWritable_dump word none, .inl rfl⟩
    | some port =>
        rw [line, String.append_assoc, String.append_assoc] at whole
        rcases exists_middle_of_append whole begins with ⟨middle, filled, rfl, behind⟩
        exact exists_dump_of_front named filled behind
  · change 5 = _ at size
    omega
  · rcases exists_middle_of_append whole longer with ⟨middle, filled, rfl, rfl⟩
    have word := isWord_of_append filled (isWord _ rfl)
    exact ⟨dump6 (some middle), isWritable_dump6 word, .inl rfl⟩
  · change 5 = _ at size
    omega

end DhcpRelay.Command
