import DhcpRelay.Command.Exchange
import DhcpRelay.Proofs.Command.Line
import DhcpRelay.Proofs.Text.Encoding

/-!
# Which command is carried out

A client writes the line of its command and an end of line.  The relay reads no more than a
limited number of bytes of it and takes them for the whole line.  So it carries out the command
that was sent as long as the line keeps within the limit.  Of a longer line it carries out the
command that the first bytes are the line of, unless they break off within a character.
-/

namespace DhcpRelay.Exchange

variable {sent : Bytes} {command other : Command}

/-- What the relay reads of the bytes that were sent is a line with this command. -/
def CarriesOut (sent : Bytes) (command : Command) : Prop :=
  ∃ line, Text.bytes line = received sent ∧ Command.read (Text.trim line) = .ok command

theorem CarriesOut.answer (carriesOut : CarriesOut sent command) (state : Relay)
    (timestamp : String) : answer state timestamp sent = some (command.report state timestamp) := by
  rcases carriesOut with ⟨line, encoded, read⟩
  rw [Exchange.answer, Text.fromUTF8?_eq_some_iff.2 encoded, Option.map_some, replyTo, read]

theorem CarriesOut.eq (first : CarriesOut sent command) (second : CarriesOut sent other) :
    command = other := by
  rcases first with ⟨line, encoded, read⟩
  rcases second with ⟨again, encodedAgain, readAgain⟩
  rw [Text.bytes_injective (encoded.trans encodedAgain.symm), readAgain] at read
  exact (Except.ok.inj read).symm

/-! ## What is received -/

theorem firstLine_append {front : Bytes} (single : newline ∉ front) (rest : Bytes) :
    firstLine (front ++ rest) = front ++ firstLine rest := by
  induction front with
  | nil => rfl
  | cons byte front ih =>
      rw [List.mem_cons, not_or] at single
      rw [List.cons_append, firstLine, if_neg (Ne.symm single.1), ih single.2]
      rfl

theorem requestBytes_eq (command : Command) :
    requestBytes command = Text.bytes command.line ++ [newline] :=
  Text.bytes_append command.line "\n"

/-- The first bytes of the line of a command, as many as are read. -/
def cut (command : Command) : Bytes :=
  (Text.bytes command.line).take lineLimit

theorem cut_eq_iff : cut command = Text.bytes command.line ↔
    command.line.utf8ByteSize ≤ lineLimit := by
  rw [← Text.length_bytes, cut]
  constructor
  · intro whole
    rw [← whole]
    exact List.length_take_le lineLimit _
  · exact List.take_of_length_le

/-- What is received is what is left of the line, with the end of a line that was not cut. -/
theorem received_requestBytes (writable : command.IsWritable) :
    received (requestBytes command) = cut command ∨
      received (requestBytes command) = cut command ++ Text.bytes "\n" ∧
        cut command = Text.bytes command.line := by
  have single : newline ∉ Text.bytes command.line :=
    Text.newline_not_mem_bytes (Command.newline_not_mem_line writable)
  rw [received, requestBytes_eq]
  by_cases short : command.line.utf8ByteSize < lineLimit
  · right
    have all : cut command = Text.bytes command.line := cut_eq_iff.2 (Nat.le_of_lt short)
    rw [List.take_of_length_le (by simpa using Nat.succ_le_of_lt short), firstLine_append single,
      all]
    exact ⟨rfl, rfl⟩
  · left
    have cutSingle : newline ∉ cut command := fun member => single (List.mem_of_mem_take member)
    rw [List.take_append_of_le_length (by simpa using short), ← cut,
      ← List.append_nil (cut command), firstLine_append cutSingle, List.append_nil, firstLine,
      List.append_nil]

/-- If it is a text, then so is what is left of the line. -/
theorem exists_text_of_received (writable : command.IsWritable) {line : String}
    (encoded : Text.bytes line = received (requestBytes command)) :
    ∃ left, Text.bytes left = cut command := by
  rcases received_requestBytes writable with reads | ⟨_, whole⟩
  · exact ⟨line, encoded.trans reads⟩
  · exact ⟨command.line, whole.symm⟩

/-! ## What is carried out -/

/-- Blanks behind the line of a command do not count. -/
theorem carriesOut_of_received (writable : other.IsWritable) (blanks : String)
    (allBlank : blanks.toList.all Text.isBlank = true)
    (reads : received sent = Text.bytes (other.line ++ blanks)) : CarriesOut sent other := by
  refine ⟨other.line ++ blanks, reads.symm, ?_⟩
  rw [Command.read, Text.words_trim, Text.words_append_blanks allBlank]
  exact Command.read_line writable

/-- The bytes that are left of a line are the line of this command, perhaps with the blank that
stood behind it. -/
def IsLeft (left : Bytes) (command : Command) : Prop :=
  left = Text.bytes command.line ∨ left = Text.bytes (command.line ++ " ")

theorem carriesOut_of_isLeft (writable : command.IsWritable) (otherWritable : other.IsWritable)
    (isLeft : IsLeft (cut command) other) : CarriesOut (requestBytes command) other := by
  rcases received_requestBytes writable with reads | ⟨reads, _⟩
  · rcases isLeft with whole | spaced
    · refine carriesOut_of_received otherWritable "" (by decide) ?_
      rw [reads, whole, String.append_empty]
    · exact carriesOut_of_received otherWritable " " (by decide) (reads.trans spaced)
  · rcases isLeft with whole | spaced
    · refine carriesOut_of_received otherWritable "\n" (by decide) ?_
      rw [reads, whole, Text.bytes_append]
    · refine carriesOut_of_received otherWritable (" " ++ "\n") (by decide) ?_
      rw [reads, spaced, ← Text.bytes_append, String.append_assoc]

/-- Where the line is not cut within a character, a command is left. -/
theorem exists_isLeft_of_text (writable : command.IsWritable) {left : String}
    (encoded : Text.bytes left = cut command) :
    ∃ other : Command, other.IsWritable ∧ IsLeft (cut command) other := by
  by_cases within : command.line.utf8ByteSize ≤ lineLimit
  · exact ⟨command, writable, .inl (cut_eq_iff.2 within)⟩
  · have long : lineLimit ≤ (Text.bytes command.line).length := by
      rw [Text.length_bytes]
      exact Nat.le_of_not_le within
    have begins : Text.bytes left ++ (Text.bytes command.line).drop lineLimit =
        Text.bytes command.line := by
      rw [encoded, cut, List.take_append_drop]
    have size : left.utf8ByteSize = lineLimit := by
      rw [← Text.length_bytes, encoded, cut, List.length_take_of_le long]
    rcases Text.exists_append_of_bytes begins with ⟨back, whole⟩
    rcases Command.exists_line_of_front writable whole (size ▸ by decide) with
      ⟨other, otherWritable, same | spaced⟩
    · exact ⟨other, otherWritable, .inl (by rw [← encoded, same])⟩
    · exact ⟨other, otherWritable, .inr (by rw [← encoded, spaced])⟩

theorem carriesOut_iff_isLeft (writable : command.IsWritable) :
    CarriesOut (requestBytes command) other ↔ other.IsWritable ∧ IsLeft (cut command) other := by
  constructor
  · intro carriesOut
    have ⟨line, encoded, _⟩ := carriesOut
    rcases exists_text_of_received writable encoded with ⟨left, encodedLeft⟩
    rcases exists_isLeft_of_text writable encodedLeft with ⟨found, foundWritable, isLeft⟩
    rw [carriesOut.eq (carriesOut_of_isLeft writable foundWritable isLeft)]
    exact ⟨foundWritable, isLeft⟩
  · rintro ⟨otherWritable, isLeft⟩
    exact carriesOut_of_isLeft writable otherWritable isLeft

/-- Nothing but the command itself has its whole line. -/
theorem isLeft_self_iff :
    IsLeft (cut command) command ↔ command.line.utf8ByteSize ≤ lineLimit := by
  rw [← cut_eq_iff, IsLeft, or_iff_left_iff_imp]
  intro spaced
  -- A line is not shorter than what is left of it.
  have size := congrArg List.length spaced
  rw [cut, List.length_take, Text.length_bytes, Text.length_bytes, String.utf8ByteSize_append,
    show " ".utf8ByteSize = 1 from rfl] at size
  omega

theorem answer_eq_none_iff (writable : command.IsWritable) (state : Relay) (timestamp : String) :
    answer state timestamp (requestBytes command) = none ↔
      ∀ left, Text.bytes left ≠ cut command := by
  constructor
  · intro silent left encoded
    rcases exists_isLeft_of_text writable encoded with ⟨other, otherWritable, isLeft⟩
    have answered := (carriesOut_of_isLeft writable otherWritable isLeft).answer state timestamp
    cases silent.symm.trans answered
  · intro noText
    rw [answer, Option.map_eq_none_iff, Option.eq_none_iff_forall_ne_some]
    intro line read
    rcases exists_text_of_received writable (Text.fromUTF8?_eq_some_iff.1 read) with
      ⟨left, encoded⟩
    exact noText left encoded

/-- The command that is carried out for the request of a command is the one whose line, perhaps
with a blank behind it, is left when that of the request is cut at the limit.  So it is the one
that was sent if the line keeps within the limit, and another one otherwise.  The answer is the
report of the command that is carried out, and there is none if a character was cut. -/
theorem carriesOut_of_requestBytes (command : Command) (writable : command.IsWritable) :
    (∀ other, CarriesOut (requestBytes command) other ↔
      other.IsWritable ∧ IsLeft (cut command) other) ∧
    (CarriesOut (requestBytes command) command ↔ command.line.utf8ByteSize ≤ lineLimit) ∧
    ∀ state timestamp,
      (command.line.utf8ByteSize ≤ lineLimit →
        answer state timestamp (requestBytes command) = some (command.report state timestamp)) ∧
      (∀ other, CarriesOut (requestBytes command) other →
        answer state timestamp (requestBytes command) = some (other.report state timestamp)) ∧
      (answer state timestamp (requestBytes command) = none ↔
        ∀ left, Text.bytes left ≠ cut command) := by
  have itself : CarriesOut (requestBytes command) command ↔
      command.line.utf8ByteSize ≤ lineLimit := by
    rw [carriesOut_iff_isLeft writable, isLeft_self_iff]
    exact and_iff_right writable
  refine ⟨fun other => carriesOut_iff_isLeft writable, itself, fun state timestamp => ?_⟩
  refine ⟨fun within => ?_, fun other carriesOut => carriesOut.answer state timestamp,
    answer_eq_none_iff writable state timestamp⟩
  exact (itself.2 within).answer state timestamp

/-- The servers of an interface with a long name, at one port or another. -/
def longRequest (port : UInt16) : Command :=
  .dump (some (String.ofList (List.replicate 247 'e'))) (some port)

theorem isWritable_longRequest (port : UInt16) : (longRequest port).IsWritable := by
  refine Command.isWritable_dump ?_ (some port)
  rw [String.toList_ofList]
  exact ⟨by decide, fun char member => by rw [List.eq_of_mem_replicate member]; rfl⟩

/-- The last digit of a port is cut off, and the request for another port is carried out. -/
theorem carriesOut_of_requestBytes_longRequest :
    (longRequest 6767).IsWritable ∧
      CarriesOut (requestBytes (longRequest 6767)) (longRequest 676) ∧
      ¬ CarriesOut (requestBytes (longRequest 6767)) (longRequest 6767) ∧
      CarriesOut (requestBytes (longRequest 676)) (longRequest 676) := by
  have writable := isWritable_longRequest
  have left : cut (longRequest 6767) = Text.bytes (longRequest 676).line := by decide +kernel
  have cutRequest := carriesOut_of_requestBytes (longRequest 6767) (writable 6767)
  have wholeRequest := carriesOut_of_requestBytes (longRequest 676) (writable 676)
  refine ⟨writable 6767, (cutRequest.1 _).2 ⟨writable 676, .inl left⟩, fun own => ?_,
    wholeRequest.2.1.2 (by decide +kernel)⟩
  exact absurd (cutRequest.2.1.1 own) (by decide +kernel)

/-- A relay with a server at each of two ports behind the interface of these requests. -/
def twoPortRelay : Relay :=
  let start := Relay.start .default ⟨[], .zero⟩
  let servers : List Server4 := [⟨⟨10, 0, 0, 5⟩, 6767⟩, ⟨⟨10, 0, 0, 6⟩, 676⟩]
  let interface := String.ofList (List.replicate 247 'e')
  { start with
    servers4 := (start.servers4.addAll ⟨fun _ => none, fun _ => none⟩ interface servers).roster }

/-- A client that asks for the servers at one port is told those at another. -/
theorem answer_ne_report_longRequest :
    (longRequest 6767).IsWritable ∧
      answer twoPortRelay "" (requestBytes (longRequest 6767)) =
        some ((longRequest 676).report twoPortRelay "") ∧
      answer twoPortRelay "" (requestBytes (longRequest 6767)) ≠
        some ((longRequest 6767).report twoPortRelay "") := by
  have left : cut (longRequest 6767) = Text.bytes (longRequest 676).line := by decide +kernel
  have other := (carriesOut_of_isLeft (isWritable_longRequest 6767) (isWritable_longRequest 676)
    (.inl left)).answer twoPortRelay ""
  have different : (longRequest 676).report twoPortRelay "" ≠
      (longRequest 6767).report twoPortRelay "" := by
    decide +kernel
  rw [other]
  exact ⟨isWritable_longRequest 6767, rfl, fun same => different (Option.some.inj same)⟩

end DhcpRelay.Exchange
