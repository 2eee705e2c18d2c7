import DhcpRelay.Proofs.CursorWalk
import DhcpRelay.Proofs.Dhcp6.Envelope

/-!
# Writing and reading envelopes

Reading undoes writing: an envelope that was written is read with its header and its options,
up to its last byte.  And writing undoes reading: an envelope whose options are read without a
fault is written again byte for byte.  There is a fault just where the area breaks off inside
an option.
-/

namespace DhcpRelay

/-- There are bytes, but too few for the header of an option or for the value that the header
announces. -/
def Framing.BreaksOff6 (rest : Bytes) : Prop :=
  rest ≠ [] ∧ (rest.length < 4 ∨ rest.length < 4 + (rest.word16At 2).toNat)

/-- The bytes of a DHCPv6 area that a reading stands for. -/
def Reading.Spells6 (bytes : Bytes) : Reading → Prop
  | .exhausted padding => padding = 0 ∧ bytes = []
  | .marker _ => False
  | .truncated padding => padding = 0 ∧ Framing.BreaksOff6 bytes
  | .option padding code value rest =>
      padding = 0 ∧ value.length ≤ 65535 ∧ bytes = Tlv.encode6 code value ++ rest

namespace Framing

theorem spells_read6 (area : Bytes) : (read6 area).Spells6 area := by
  rcases area with _ | ⟨codeHigh, _ | ⟨codeLow, _ | ⟨lengthHigh, _ | ⟨lengthLow, rest⟩⟩⟩⟩
  · exact ⟨rfl, rfl⟩
  · exact ⟨rfl, List.cons_ne_nil _ _, .inl (by simp)⟩
  · exact ⟨rfl, List.cons_ne_nil _ _, .inl (by simp)⟩
  · exact ⟨rfl, List.cons_ne_nil _ _, .inl (by simp)⟩
  · rw [read6]
    cases split : Bytes.splitExactly (Bytes.word16 lengthHigh lengthLow).toNat rest with
    | none =>
        have short := Bytes.splitExactly_eq_none_iff.1 split
        refine ⟨rfl, List.cons_ne_nil _ _, .inr ?_⟩
        change rest.length + 4 < 4 + (Bytes.word16 lengthHigh lengthLow).toNat
        omega
    | some parts =>
        rcases parts with ⟨value, later⟩
        rcases Bytes.splitExactly_eq_some_iff.1 split with ⟨rfl, size⟩
        have bound := (Bytes.word16 lengthHigh lengthLow).toNat_lt
        refine ⟨rfl, by omega, ?_⟩
        rw [Tlv.encode6, size, UInt16.ofNat_toNat, Bytes.ofWord16_word16, Bytes.ofWord16_word16]
        rfl

theorem length_encode6 (code : UInt16) (value : Bytes) :
    (Tlv.encode6 code value).length = 4 + value.length := by
  simp only [Tlv.encode6, Bytes.ofWord16, List.length_append, List.length_cons, List.length_nil]

/-- A written option is long enough for its own header. -/
theorem not_breaksOff_encode6_append {value : Bytes} (fits : value.length ≤ 65535)
    (code : UInt16) (later : Bytes) : ¬ BreaksOff6 (Tlv.encode6 code value ++ later) := by
  have announced : (Tlv.encode6 code value ++ later).word16At 2 = UInt16.ofNat value.length :=
    Bytes.word16_ofNat _
  have size : (UInt16.ofNat value.length).toNat = value.length :=
    UInt16.toNat_ofNat_of_lt' (Nat.lt_succ_of_le fits)
  rw [BreaksOff6, announced, size, List.length_append, length_encode6]
  omega

theorem read6_of_breaksOff {rest : Bytes} (broken : BreaksOff6 rest) :
    read6 rest = .truncated 0 := by
  have spelled := spells_read6 rest
  cases reading : read6 rest with
  | exhausted padding =>
      rw [reading] at spelled
      exact absurd spelled.2 broken.1
  | marker padding =>
      rw [reading] at spelled
      exact spelled.elim
  | truncated padding =>
      rw [reading] at spelled
      rw [spelled.1]
  | option padding code value later =>
      rw [reading] at spelled
      rcases spelled with ⟨_, fits, rfl⟩
      exact absurd broken (not_breaksOff_encode6_append fits code later)

end Framing

namespace Dhcp6

open Framing

/-- The options fit their length words. -/
def AllFit (options : List (UInt16 × Bytes)) : Prop :=
  ∀ option ∈ options, option.2.length ≤ 65535

/-- A cursor reads the area as these options, without a fault and up to the last byte. -/
structure ReadsAs (area : Bytes) (options : List (UInt16 × Bytes)) : Prop where
  items : (Cursor.start .dhcp6 area).drain.1.map (·.map Tlv.pair) = options.map .ok
  finished : (Cursor.start .dhcp6 area).drain.2 = ⟨.dhcp6, area, area.length, [], .ended none⟩

/-- A cursor meets a fault in the area. -/
def HasFault (area : Bytes) : Prop :=
  ∃ fault, .error fault ∈ (Cursor.start .dhcp6 area).drain.1

/-- The area breaks off behind some whole options. -/
def BreaksOff (area : Bytes) : Prop :=
  ∃ options rest, AllFit options ∧ area = encodeOptions options ++ rest ∧ BreaksOff6 rest

theorem encodeOptions_cons (code : UInt16) (value : Bytes) (options : List (UInt16 × Bytes)) :
    encodeOptions ((code, value) :: options) =
      Tlv.encode6 code value ++ encodeOptions options := rfl

theorem encodeOptions_append (front back : List (UInt16 × Bytes)) :
    encodeOptions (front ++ back) = encodeOptions front ++ encodeOptions back :=
  List.flatMap_append

/-- An area is whole options up to its end or to where it breaks off. -/
theorem exists_options (area : Bytes) :
    ∃ options rest, AllFit options ∧ area = encodeOptions options ++ rest ∧
      (rest = [] ∨ BreaksOff6 rest) := by
  induction size : area.length using Nat.strongRecOn generalizing area with
  | ind count ih =>
      have spelled := spells_read6 area
      cases reading : read6 area with
      | exhausted padding =>
          rw [reading] at spelled
          exact ⟨[], area, nofun, rfl, .inl spelled.2⟩
      | marker padding =>
          rw [reading] at spelled
          exact spelled.elim
      | truncated padding =>
          rw [reading] at spelled
          exact ⟨[], area, nofun, rfl, .inr spelled.2⟩
      | option padding code value later =>
          rw [reading] at spelled
          rcases spelled with ⟨_, fits, rfl⟩
          have shorter : later.length < count := by
            rw [← size, List.length_append, length_encode6]
            omega
          rcases ih later.length shorter later rfl with ⟨options, rest, allFit, rfl, ends⟩
          refine ⟨(code, value) :: options, rest, List.forall_mem_cons.2 ⟨fits, allFit⟩, ?_, ends⟩
          exact (List.append_assoc ..).symm

/-- A cursor in front of written options yields them and goes on behind them. -/
theorem drain_encodeOptions_append {options : List (UInt16 × Bytes)} (fit : AllFit options)
    (area rest : Bytes) (position : Nat) :
    let before : Cursor := ⟨.dhcp6, area, position, encodeOptions options ++ rest, .running⟩
    let behind : Cursor :=
      ⟨.dhcp6, area, position + (encodeOptions options).length, rest, .running⟩
    before.drain.1.map (·.map Tlv.pair) =
        options.map .ok ++ behind.drain.1.map (·.map Tlv.pair) ∧
      before.drain.2 = behind.drain.2 := by
  induction options generalizing position with
  | nil => exact ⟨rfl, rfl⟩
  | cons option options ih =>
      rcases option with ⟨code, value⟩
      intro before behind
      rw [AllFit, List.forall_mem_cons] at fit
      let stop := position + 4 + value.length
      let between : Cursor := ⟨.dhcp6, area, stop, encodeOptions options ++ rest, .running⟩
      have reading : read6 before.rest =
          .option 0 code value (encodeOptions options ++ rest) := by
        rw [← read6_encode6_append fit.1, ← List.append_assoc]
        rfl
      have step : before.next = (some (.ok ⟨0, position, stop, code, value⟩), between) := by
        change Framing.dhcp6.read before.rest = _ at reading
        rw [Cursor.next]
        dsimp only [before] at reading ⊢
        rw [reading]
        rfl
      have ends : stop + (encodeOptions options).length =
          position + (encodeOptions (⟨code, value⟩ :: options)).length := by
        rw [encodeOptions_cons, List.length_append, length_encode6]
        omega
      rcases ih fit.2 stop with ⟨items, last⟩
      rw [Cursor.drain_of_ok (congrArg Prod.fst step), step]
      rw [ends] at items last
      exact ⟨congrArg (_ :: ·) items, last⟩

/-- Written options are read up to the last byte. -/
theorem readsAs_encodeOptions {options : List (UInt16 × Bytes)} (fit : AllFit options) :
    ReadsAs (encodeOptions options) options := by
  let area := encodeOptions options
  let behind : Cursor := ⟨.dhcp6, area, 0 + area.length, [], .running⟩
  have stopped : behind.drain = ([], { behind with phase := .ended none }) :=
    Cursor.drain_of_none rfl
  have whole : Cursor.start .dhcp6 area = ⟨.dhcp6, area, 0, area ++ [], .running⟩ := by
    rw [List.append_nil]
    rfl
  rcases drain_encodeOptions_append fit area [] 0 with ⟨items, last⟩
  rw [← whole] at items last
  constructor
  · rw [items, stopped]
    exact List.append_nil _
  · rw [last, stopped]
    exact congrArg (Cursor.mk .dhcp6 area · [] _) (Nat.zero_add _)

theorem ReadsAs.not_hasFault {area : Bytes} {options : List (UInt16 × Bytes)}
    (reads : ReadsAs area options) : ¬ HasFault area := by
  intro fails
  rcases fails with ⟨fault, member⟩
  have member : Except.error fault ∈ options.map Except.ok := by
    rw [← reads.items]
    exact List.mem_map_of_mem (f := (·.map Tlv.pair)) member
  simp at member

/-- Where an area breaks off, a cursor meets a fault right behind the whole options. -/
theorem drain_of_breaksOff {options : List (UInt16 × Bytes)} (fit : AllFit options) {rest : Bytes}
    (broken : BreaksOff6 rest) :
    (Cursor.start .dhcp6 (encodeOptions options ++ rest)).drain.1.map (·.map Tlv.pair) =
      options.map .ok ++ [.error (.truncated (encodeOptions options).length)] := by
  let area := encodeOptions options ++ rest
  let position := 0 + (encodeOptions options).length
  let behind : Cursor := ⟨.dhcp6, area, position, rest, .running⟩
  have reading : Framing.dhcp6.read rest = .truncated 0 := read6_of_breaksOff broken
  have stopped : behind.next.1 = some (.error (.truncated position)) := by
    rw [Cursor.next]
    dsimp only [behind]
    rw [reading]
    rfl
  have only : behind.drain.1.map (·.map Tlv.pair) = [.error (.truncated position)] := by
    rw [Cursor.drain_of_error stopped]
    rfl
  refine (drain_encodeOptions_append fit area rest 0).1.trans ?_
  rw [only, show position = (encodeOptions options).length from Nat.zero_add _]

/-- There is a fault just where the area breaks off. -/
theorem hasFault_iff_breaksOff {area : Bytes} : HasFault area ↔ BreaksOff area := by
  constructor
  · intro fails
    rcases exists_options area with ⟨options, rest, fit, rfl, rfl | broken⟩
    · rw [List.append_nil] at fails
      exact absurd fails (readsAs_encodeOptions fit).not_hasFault
    · exact ⟨options, rest, fit, rfl, broken⟩
  · intro breaks
    rcases breaks with ⟨options, rest, fit, rfl, broken⟩
    have last : Except.error (.truncated (encodeOptions options).length) ∈
        (Cursor.start .dhcp6 (encodeOptions options ++ rest)).drain.1.map (·.map Tlv.pair) := by
      rw [drain_of_breaksOff fit broken]
      exact List.mem_append_right _ (List.mem_singleton_self _)
    rcases List.mem_map.1 last with ⟨item, yielded, same⟩
    cases item with
    | ok option => cases same
    | error fault => exact ⟨fault, yielded⟩

theorem exists_readsAs {area : Bytes} (sound : ¬ HasFault area) :
    ∃ options, ReadsAs area options ∧ encodeOptions options = area := by
  rcases exists_options area with ⟨options, rest, fit, rfl, rfl | broken⟩
  · rw [List.append_nil]
    exact ⟨options, readsAs_encodeOptions fit, rfl⟩
  · exact absurd (hasFault_iff_breaksOff.2 ⟨options, rest, fit, rfl, broken⟩) sound

/-- Options are all that an area holds just if it is what is written for them. -/
theorem contents_eq_iff_encodeOptions {area : Bytes} {options : List (UInt16 × Bytes)} :
    Framing.dhcp6.contents area = ⟨options, false⟩ ↔
      AllFit options ∧ area = encodeOptions options := by
  constructor
  · intro held
    have items := Cursor.map_drain_start_iff.2 held
    rcases exists_options area with ⟨whole, rest, fit, rfl, rfl | broken⟩
    · rw [List.append_nil, contents_encodeOptions fit] at held
      cases held
      exact ⟨fit, List.append_nil _⟩
    · exact absurd ((drain_of_breaksOff fit broken).symm.trans items)
        (append_error_ne_map_ok _ _ options)
  · intro written
    rcases written with ⟨fit, rfl⟩
    exact contents_encodeOptions fit

namespace Envelope

/-- What was read is written again. -/
theorem bytes_of_decode {message : Bytes} {envelope : Envelope}
    (decoded : decode message = .ok envelope) : envelope.bytes = message := by
  rw [decode] at decoded
  split at decoded
  · cases decoded
  · rename_i whole
    cases decoded
    have size : envelopeHeaderSize ≤ message.length := Nat.not_lt.1 whole
    have first : message.take 2 = [message.byteAt 0, message.byteAt 1] := by
      rcases message with _ | ⟨type, _ | ⟨hopCount, behind⟩⟩
      · exact absurd (show 34 ≤ 0 from size) (by decide)
      · exact absurd (show 34 ≤ 1 from size) (by decide)
      · rfl
    have parts : message = message.take 2 ++ (message.drop 2).take 16 ++
        (message.drop 18).take 16 ++ message.drop 34 := by
      rw [← List.take_add, ← List.take_add, List.take_append_drop]
    rw [bytes, IPv6.octets_readAt (Nat.le_trans (by decide) size), IPv6.octets_readAt size,
      ← first]
    exact parts.symm

/-- Reading undoes writing, and writing undoes reading.  An envelope that was written behind
other bytes is read with its header, and as its options up to the last byte, if these fit
their length words.  The other way round, a message with the header of an envelope has a fault
in its options just where they break off; if they have none, the message is what is written
for the header and the options that are read. -/
theorem reads_and_rewrites :
    (∀ header options front, AllFit options →
      let written := front ++ bytes ⟨header, encodeOptions options⟩
      ∃ area, decode (written.drop front.length) = .ok ⟨header, area⟩ ∧
        ReadsAs area options) ∧
    ∀ message type, envelopeHeaderSize ≤ message.length → typeOf message = .ok type →
      ∃ header area, decode message = .ok ⟨header, area⟩ ∧ header.type = type.code ∧
        (HasFault area ↔ BreaksOff area) ∧
        (¬ HasFault area → ∃ options, ReadsAs area options ∧
          bytes ⟨header, encodeOptions options⟩ = message) := by
  constructor
  · intro header options front fit written
    refine ⟨encodeOptions options, ?_, readsAs_encodeOptions fit⟩
    rw [List.drop_left, decode_bytes]
  · intro message type whole typed
    let header : EnvelopeHeader :=
      ⟨message.byteAt 0, message.byteAt 1, IPv6.readAt message 2, IPv6.readAt message 18⟩
    have decoded : decode message = .ok ⟨header, message.drop envelopeHeaderSize⟩ := by
      rw [decode, if_neg (Nat.not_lt.2 whole)]
    refine ⟨header, _, decoded, byteAt_of_typeOf typed, hasFault_iff_breaksOff, ?_⟩
    intro sound
    rcases exists_readsAs sound with ⟨options, reads, same⟩
    exact ⟨options, reads, same ▸ bytes_of_decode decoded⟩

/-- An envelope behind three other bytes, and one that breaks off in its second option. -/
theorem reads_and_rewrites_interfaceId :
    let header : EnvelopeHeader :=
      ⟨MessageType.relayForward.code, 2, .unspecified, .unspecified⟩
    let options := [(interfaceIdCode, Bytes.ofWord32 7)]
    let message := bytes ⟨header, encodeOptions options⟩
    let broken := bytes ⟨header, encodeOptions options ++ [0, 9, 0]⟩
    (∃ area, decode (([7, 7, 7] ++ message).drop 3) = .ok ⟨header, area⟩ ∧
      ReadsAs area options) ∧
    (∃ header area read, decode message = .ok ⟨header, area⟩ ∧ ReadsAs area read ∧
      bytes ⟨header, encodeOptions read⟩ = message) ∧
    ∃ header area, decode broken = .ok ⟨header, area⟩ ∧ HasFault area := by
  intro header options message broken
  have fit : AllFit options := List.forall_mem_singleton.2 (by decide)
  have typed : typeOf message = .ok .relayForward := typeOf_of_decode (decode_bytes _) rfl
  have brokenTyped : typeOf broken = .ok .relayForward := typeOf_of_decode (decode_bytes _) rfl
  rcases reads_and_rewrites with ⟨reads, rewrites⟩
  refine ⟨reads header options [7, 7, 7] fit, ?_, ?_⟩
  · rcases rewrites message .relayForward (by decide) typed with
      ⟨header, area, decoded, _, _, again⟩
    have same := (decode_bytes _).symm.trans decoded
    cases same
    rcases again (readsAs_encodeOptions fit).not_hasFault with ⟨read, reads, written⟩
    exact ⟨_, _, read, decoded, reads, written⟩
  · rcases rewrites broken .relayForward (by decide) brokenTyped with
      ⟨header, area, decoded, _, faulty, _⟩
    have same := (decode_bytes _).symm.trans decoded
    cases same
    exact ⟨_, _, decoded, faulty.2 ⟨options, [0, 9, 0], fit, rfl,
      List.cons_ne_nil _ _, .inl (by decide)⟩⟩

end Envelope

end Dhcp6

end DhcpRelay
