import DhcpRelay.Dhcp4.Message
import DhcpRelay.Proofs.OptionGrammar
import Mathlib.Data.List.Basic

/-!
# Looking for an option

The first option of a code is looked for in the option area.  If the area ends without it, the
search goes on in the header fields that the last overload option of the area names, the `file`
field before the `sname` field.  An area that breaks off without the option hides the fields.
-/

namespace DhcpRelay

variable {area : Bytes} {code : UInt16} {before : List Tlv} {option : Tlv} {walk : Walk}

/-! ## The first option of a code -/

/-- The area is written without options of this code. -/
structure Walk.Lacks (walk : Walk) (area : Bytes) (code : UInt16) : Prop where
  describes : walk.Describes area
  others : ∀ option ∈ walk.options, option.code ≠ code

/-- The area is written with these options in front of the first one of this code. -/
structure Tlv.IsFirst (option : Tlv) (area : Bytes) (code : UInt16) (before : List Tlv) :
    Prop where
  describes : ∃ after ending, Walk.Describes ⟨before ++ option :: after, ending⟩ area
  isCode : option.code = code
  others : ∀ other ∈ before, other.code ≠ code

/-- An area is written with an option of a code or without one. -/
theorem exists_isFirst_or_lacks (area : Bytes) (code : UInt16) :
    (∃ (before : List Tlv) (option : Tlv), option.IsFirst area code before) ∨
      ∃ walk : Walk, walk.Lacks area code := by
  rcases walked : Framing.dhcp4.walk area with ⟨options, ending⟩
  have describes : Walk.Describes ⟨options, ending⟩ area := Framing.describes_iff.2 walked
  cases found : options.find? (·.code == code) with
  | some option =>
      rcases find?_code_eq_some_iff.1 found with ⟨isCode, before, after, rfl, others⟩
      exact .inl ⟨before, option, ⟨after, ending, describes⟩, isCode, others⟩
  | none =>
      simp only [List.find?_eq_none, beq_iff_eq] at found
      exact .inr ⟨⟨options, ending⟩, describes, found⟩

namespace Dhcp4

theorem optionIn?_of_isFirst (first : option.IsFirst area code before) :
    optionIn? area code = some option.value := by
  rcases first.describes with ⟨after, ending, describes⟩
  have found : (before ++ option :: after).find? (·.code == code) = some option :=
    find?_code_eq_some_iff.2 ⟨first.isCode, before, after, rfl, first.others⟩
  rw [optionIn?, Framing.describes_iff.1 describes, Walk.find?, found]
  rfl

theorem optionIn?_of_lacks (lacks : walk.Lacks area code) : optionIn? area code = none := by
  have none : walk.find? code = none := by
    simpa [Walk.find?] using lacks.others
  rw [optionIn?, Framing.describes_iff.1 lacks.describes, none]
  rfl

end Dhcp4

/-! ## The overload -/

namespace Overload

/-- The first bytes of the overload options; an empty one has none. -/
def bytes (options : List Tlv) : List UInt8 :=
  (options.filter (·.code = overloadCode)).filterMap (·.value.head?)

/-- The overload that a byte stands for, or none if there is no byte. -/
def ofByte? (byte? : Option UInt8) : Overload :=
  byte?.elim none ofByte

theorem after_eq (overload : Overload) (option : Tlv) :
    overload.after option = (bytes [option]).getLast?.elim overload ofByte := by
  rcases option with ⟨padding, offset, stop, code, _ | ⟨byte, value⟩⟩ <;>
    by_cases isCode : code = overloadCode <;> simp [after, bytes, isCode]

/-- Each overload option takes the place of those in front of it. -/
theorem foldl_after (overload : Overload) (options : List Tlv) :
    options.foldl Overload.after overload =
      (bytes options).getLast?.elim overload ofByte := by
  induction options generalizing overload with
  | nil => rfl
  | cons option rest ih =>
      have split : bytes (option :: rest) = bytes [option] ++ bytes rest := by
        simp [bytes, ← List.filterMap_append, ← List.filter_append]
      rw [List.foldl_cons, ih, after_eq, split, List.getLast?_append]
      cases (bytes rest).getLast? <;> rfl

end Overload

/-! ## Searching the option area -/

theorem Ending.isWhole_or_truncated (ending : Ending) :
    ending.IsWhole ∨ ∃ offset, ending = .truncated offset := by
  cases ending with
  | truncated offset => exact .inr ⟨offset, rfl⟩
  | exhausted | marker => exact .inl nofun

namespace Search

/-- What a search of an area finds: the first option of the code, with the overload up to and
with this option; or else the overload of the whole area; or else the fault that it breaks off. -/
inductive Finds (area : Bytes) (code : UInt16) : Except OptionFault Search → Prop where
  | found {before : List Tlv} {option : Tlv} :
      option.IsFirst area code before →
      Finds area code
        (.ok ⟨some option, .ofByte? (Overload.bytes (before ++ [option])).getLast?⟩)
  | absent {walk : Walk} :
      walk.Lacks area code → walk.ending.IsWhole →
      Finds area code (.ok ⟨none, .ofByte? (Overload.bytes walk.options).getLast?⟩)
  | broken {options : List Tlv} {offset : Nat} :
      Walk.Lacks ⟨options, .truncated offset⟩ area code →
      Finds area code (.error (.truncated offset))

theorem throughOptions_append_cons {after : List Tlv} {ending : Ending} {overload : Overload}
    (others : ∀ other ∈ before, other.code ≠ code) (isCode : option.code = code) :
    throughOptions code overload ending (before ++ option :: after) =
      .ok ⟨some option, (before ++ [option]).foldl Overload.after overload⟩ := by
  induction before generalizing overload with
  | nil => exact if_pos isCode
  | cons other rest ih =>
      rw [List.forall_mem_cons] at others
      rw [List.cons_append, throughOptions, if_neg others.1, ih others.2]
      rfl

theorem throughOptions_of_others {options : List Tlv} {ending : Ending} {overload : Overload}
    (others : ∀ option ∈ options, option.code ≠ code) :
    throughOptions code overload ending options =
      throughOptions code (options.foldl Overload.after overload) ending [] := by
  induction options generalizing overload with
  | nil => rfl
  | cons option rest ih =>
      rw [List.forall_mem_cons] at others
      have step : throughOptions code overload ending (option :: rest) =
          throughOptions code (overload.after option) ending rest := if_neg others.1
      rw [step, ih others.2]
      rfl

theorem search_of_isFirst (first : option.IsFirst area code before) :
    search area code =
      .ok ⟨some option, .ofByte? (Overload.bytes (before ++ [option])).getLast?⟩ := by
  rcases first.describes with ⟨after, ending, describes⟩
  rw [search, Framing.describes_iff.1 describes]
  dsimp only
  rw [throughOptions_append_cons first.others first.isCode, Overload.foldl_after]
  rfl

theorem search_of_lacks (lacks : walk.Lacks area code) :
    search area code =
      throughOptions code (.ofByte? (Overload.bytes walk.options).getLast?) walk.ending [] := by
  rw [search, Framing.describes_iff.1 lacks.describes, throughOptions_of_others lacks.others,
    Overload.foldl_after]
  rfl

theorem search_of_isWhole (lacks : walk.Lacks area code) (whole : walk.ending.IsWhole) :
    search area code = .ok ⟨none, .ofByte? (Overload.bytes walk.options).getLast?⟩ := by
  rw [search_of_lacks lacks]
  cases ended : walk.ending with
  | truncated offset => exact absurd ended (whole offset)
  | exhausted => rfl
  | marker => rfl

theorem search_of_truncated {options : List Tlv} {offset : Nat}
    (lacks : Walk.Lacks ⟨options, .truncated offset⟩ area code) :
    search area code = .error (.truncated offset) :=
  search_of_lacks lacks

/-- A search gives what it finds. -/
theorem search_eq_iff_finds {result : Except OptionFault Search} :
    search area code = result ↔ Finds area code result := by
  constructor
  · rintro rfl
    rcases exists_isFirst_or_lacks area code with ⟨before, option, first⟩ | ⟨walk, lacks⟩
    · rw [search_of_isFirst first]
      exact .found first
    · rcases walk with ⟨options, ending⟩
      rcases ending.isWhole_or_truncated with whole | ⟨offset, rfl⟩
      · rw [search_of_isWhole lacks whole]
        exact .absent lacks whole
      · rw [search_of_truncated lacks]
        exact .broken lacks
  · intro finds
    cases finds with
    | found first => exact search_of_isFirst first
    | absent lacks whole => exact search_of_isWhole lacks whole
    | broken lacks => exact search_of_truncated lacks

end Search

/-! ## Looking in a message -/

namespace Dhcp4

variable {message : Bytes} {areas : List Bytes} {value? : Option Bytes}

/-- The value of an option in the first of some areas that holds it. -/
inductive FirstIn (code : UInt16) : List Bytes → Option Bytes → Prop where
  | nowhere : FirstIn code [] none
  | here {area : Bytes} {areas : List Bytes} {before : List Tlv} {option : Tlv} :
      option.IsFirst area code before → FirstIn code (area :: areas) (some option.value)
  | later {area : Bytes} {areas : List Bytes} {walk : Walk} {value? : Option Bytes} :
      walk.Lacks area code → FirstIn code areas value? → FirstIn code (area :: areas) value?

theorem findSome?_eq_iff_firstIn :
    areas.findSome? (optionIn? · code) = value? ↔ FirstIn code areas value? := by
  constructor
  · rintro rfl
    induction areas with
    | nil => exact .nowhere
    | cons area rest ih =>
        rcases exists_isFirst_or_lacks area code with ⟨before, option, first⟩ | ⟨walk, lacks⟩
        · rw [List.findSome?_cons, optionIn?_of_isFirst first]
          exact .here first
        · rw [List.findSome?_cons, optionIn?_of_lacks lacks]
          exact .later lacks ih
  · intro first
    induction first with
    | nowhere => rfl
    | here first => rw [List.findSome?_cons, optionIn?_of_isFirst first]
    | later lacks _ ih => rw [List.findSome?_cons, optionIn?_of_lacks lacks, ih]

/-- The header fields that an overload option names with its first byte. -/
def fieldsNamed (byte? : Option UInt8) (sname file : Bytes) : List Bytes :=
  match byte? with
  | some 1 => [file]
  | some 2 => [sname]
  | some 3 => [file, sname]
  | _ => []

/-- What a message holds as the value of an option, by its `sname` field, its `file` field and
what stands behind its header. -/
inductive Picks (sname file behind : Bytes) (code : UInt16) : Option Bytes → Prop where
  | inArea {area : Bytes} {before : List Tlv} {option : Tlv} :
      behind = magicCookie ++ area → option.IsFirst area code before →
      Picks sname file behind code (some option.value)
  | plain : (∀ area, behind ≠ magicCookie ++ area) → Picks sname file behind code none
  | hidden {area : Bytes} {options : List Tlv} {offset : Nat} :
      behind = magicCookie ++ area → Walk.Lacks ⟨options, .truncated offset⟩ area code →
      Picks sname file behind code none
  | inField {area : Bytes} {walk : Walk} {value? : Option Bytes} :
      behind = magicCookie ++ area → walk.Lacks area code → walk.ending.IsWhole →
      FirstIn code (fieldsNamed (Overload.bytes walk.options).getLast? sname file) value? →
      Picks sname file behind code value?

theorem exists_picks (sname file behind : Bytes) (code : UInt16) :
    ∃ value?, Picks sname file behind code value? := by
  by_cases cookie : ∃ area, behind = magicCookie ++ area
  · rcases cookie with ⟨area, here⟩
    rcases exists_isFirst_or_lacks area code with
      ⟨before, option, first⟩ | ⟨⟨options, ending⟩, lacks⟩
    · exact ⟨_, .inArea here first⟩
    · rcases ending.isWhole_or_truncated with whole | ⟨offset, rfl⟩
      · exact ⟨_, .inField here lacks whole (findSome?_eq_iff_firstIn.1 rfl)⟩
      · exact ⟨_, .hidden here lacks⟩
  · exact ⟨_, .plain fun area here => cookie ⟨area, here⟩⟩

theorem optionArea_of_cookie (here : message.drop headerSize = magicCookie ++ area) :
    optionArea message = area := by
  have cookie : hasCookie message = true := by
    rw [hasCookie, Bytes.slice_of_drop here (by decide), beq_self_eq_true]
  have rest : message.drop optionsStart = area := by
    rw [show optionsStart = headerSize + 4 from rfl, ← List.drop_drop, here]
    rfl
  rw [optionArea, if_pos cookie, rest]

theorem optionArea_of_plain (plain : ∀ area, message.drop headerSize ≠ magicCookie ++ area) :
    optionArea message = [] := by
  have absent : ¬ hasCookie message = true := by
    intro cookie
    have front : (message.drop headerSize).take 4 = magicCookie := beq_iff_eq.1 cookie
    have split := (List.take_append_drop 4 (message.drop headerSize)).symm
    rw [front] at split
    exact plain _ split
  rw [optionArea, if_neg absent]

theorem fieldsNamed_eq (byte? : Option UInt8) (sname file : Bytes) :
    fieldsNamed byte? sname file =
      (if (Overload.ofByte? byte?).usesFile then [file] else []) ++
        if (Overload.ofByte? byte?).usesSname then [sname] else [] := by
  cases byte? with
  | none => rfl
  | some byte =>
      by_cases one : byte = 1
      · rw [one]
        rfl
      · by_cases two : byte = 2
        · rw [two]
          rfl
        · by_cases three : byte = 3
          · rw [three]
            rfl
          · simp [fieldsNamed, Overload.ofByte?, Overload.ofByte, Overload.usesFile,
              Overload.usesSname, one, two, three]

/-- Behind an area that ends without the option, the search goes on in the fields named. -/
theorem option?_of_isWhole (lacks : walk.Lacks (optionArea message) code)
    (whole : walk.ending.IsWhole) :
    option? message code =
      (fieldsNamed (Overload.bytes walk.options).getLast? (serverName message)
        (bootFile message)).findSome? (optionIn? · code) := by
  rw [option?, Search.search_of_isWhole lacks whole, fieldsNamed_eq]
  dsimp only
  generalize Overload.ofByte? (Overload.bytes walk.options).getLast? = overload
  cases overload with
  | none => rfl
  | file =>
      cases inFile : optionIn? (bootFile message) code <;>
        simp [Overload.usesFile, Overload.usesSname, inFile]
  | sname =>
      cases inSname : optionIn? (serverName message) code <;>
        simp [Overload.usesFile, Overload.usesSname, inSname]
  | both =>
      cases inFile : optionIn? (bootFile message) code <;>
        cases inSname : optionIn? (serverName message) code <;>
          simp [Overload.usesFile, Overload.usesSname, inFile, inSname]

theorem option?_of_picks
    (picks : Picks (serverName message) (bootFile message) (message.drop headerSize) code value?) :
    option? message code = value? := by
  cases picks with
  | inArea here first =>
      rw [option?, optionArea_of_cookie here, Search.search_of_isFirst first]
  | plain plain =>
      have nothing : search [] code = .ok ⟨none, .none⟩ := by
        rw [search, Framing.walk, Framing.walkFrom_eq_walkOf]
        rfl
      rw [option?, optionArea_of_plain plain, nothing]
      rfl
  | hidden here lacks =>
      rw [option?, optionArea_of_cookie here, Search.search_of_truncated lacks]
  | inField here lacks whole first =>
      rw [← optionArea_of_cookie here] at lacks
      rw [option?_of_isWhole lacks whole]
      exact findSome?_eq_iff_firstIn.2 first

/-- A message with a whole header is split at its `sname` and its `file` field. -/
theorem eq_append_fields (message : Bytes) :
    message = message.take 44 ++ serverName message ++ bootFile message ++
      message.drop headerSize := by
  have front : message.drop 44 = serverName message ++ message.drop 108 :=
    Bytes.drop_eq_slice_append (by decide)
  have back : message.drop 108 = bootFile message ++ message.drop headerSize :=
    Bytes.drop_eq_slice_append (by decide)
  rw [List.append_assoc, List.append_assoc, ← back, ← front, List.take_append_drop]

/-- A message with a whole header holds the value of an option by its `sname` field of 64 bytes,
its `file` field of 128 bytes and what stands behind them. -/
theorem option?_eq_iff_picks {message : Bytes} (whole : headerSize ≤ message.length) :
    (∃ front sname file behind : Bytes, message = front ++ sname ++ file ++ behind ∧
      front.length = 44 ∧ sname.length = 64 ∧ file.length = 128 ∧
      ∀ code value?, option? message code = value? ↔ Picks sname file behind code value?) ∧
    ∀ area code result, search area code = result ↔ Search.Finds area code result := by
  have size : 236 ≤ message.length := whole
  constructor
  · refine ⟨message.take 44, serverName message, bootFile message, message.drop headerSize,
      eq_append_fields message, ?_, ?_, ?_, ?_⟩
    · exact List.length_take_of_le (Nat.le_trans (by decide) size)
    · exact Bytes.length_slice_of_inRange ⟨by decide, Nat.le_trans (by decide) size⟩
    · exact Bytes.length_slice_of_inRange ⟨by decide, size⟩
    · intro code value?
      constructor
      · intro same
        rcases exists_picks (serverName message) (bootFile message) (message.drop headerSize) code
          with ⟨found?, picks⟩
        rwa [← same, option?_of_picks picks]
      · exact option?_of_picks
  · intro area code result
    exact Search.search_eq_iff_finds

/-- The last overload option that is not empty names both fields.  The `file` field ends without
the message type, which stands in the `sname` field, and again behind the end of the area. -/
theorem option?_eq_iff_picks_overloadedMessage :
    let sname := Bytes.padTo [53, 1, 6, 255] 64
    let file := Bytes.padTo [12, 1, 53, 255, 53, 1, 2] 128
    let area : Bytes := [52, 1, 1, 52, 1, 3, 52, 0, 255, 53, 1, 1]
    let message := List.replicate 44 0 ++ sname ++ file ++ (magicCookie ++ area)
    headerSize ≤ message.length ∧
      (∃ front sname file behind : Bytes, message = front ++ sname ++ file ++ behind ∧
        front.length = 44 ∧ sname.length = 64 ∧ file.length = 128 ∧
        Picks sname file behind messageTypeCode (some [6])) ∧
      Search.Finds area messageTypeCode (.ok ⟨none, .both⟩) ∧
      Search.Finds area overloadCode (.ok ⟨some ⟨0, 0, 3, 52, [1]⟩, .file⟩) := by
  intro sname file area message
  have whole : headerSize ≤ message.length := by decide +kernel
  have typed : option? message messageTypeCode = some [6] := by decide +kernel
  have searched : search area messageTypeCode = .ok ⟨none, .both⟩ := by decide +kernel
  have first : search area overloadCode = .ok ⟨some ⟨0, 0, 3, 52, [1]⟩, .file⟩ := by
    decide +kernel
  rcases option?_eq_iff_picks whole with ⟨⟨front, sname, file, behind, split, size, sizes⟩, finds⟩
  rcases sizes with ⟨snameSize, fileSize, picks⟩
  exact ⟨whole, ⟨front, sname, file, behind, split, size, snameSize, fileSize,
    (picks _ _).1 typed⟩, (finds _ _ _).1 searched, (finds _ _ _).1 first⟩

end Dhcp4

end DhcpRelay
