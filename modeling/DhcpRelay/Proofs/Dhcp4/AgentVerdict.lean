import DhcpRelay.Dhcp4.AgentInfo
import DhcpRelay.Proofs.Bytes

/-!
# The verdict on an agent option

The value of an agent option is malformed unless sub-options of the two known kinds, one behind
the other, make it up.  Of each kind the last one counts.  The option is one of this relay
if the circuit has four bytes and the identity is the relay's.
-/

namespace DhcpRelay

/-- An interface of this machine has the address. -/
def Topology.Owns (topology : Topology) (address : IPv4) : Prop :=
  ∃ link ∈ topology.links, ∃ subnet ∈ link.ipv4, subnet.address = address

theorem Topology.isSome_ownerOf_iff {topology : Topology} {address : IPv4} :
    (topology.ownerOf address).isSome = true ↔ topology.Owns address := by
  simp [ownerOf, Owns, List.find?_isSome]

namespace Dhcp4.AgentInfo

variable {value rest part : Bytes} {tag length : UInt8} {found : List (UInt8 × Bytes)}
  {kind : IdentityKind} {links : Topology} {circuit : UInt32} {address : Option IPv4}

/-! ## Sub-options -/

/-- A tag and a value that a relay writes in an agent option. -/
def IsSubOption (sub : UInt8 × Bytes) : Prop :=
  (sub.1 = circuitTag ∨ sub.1 = identityTag) ∧ sub.2.length < 256

/-- Sub-options one behind the other. -/
def encodeSubOptions (found : List (UInt8 × Bytes)) : Bytes :=
  found.flatMap fun (tag, part) => encodeSubOption tag part

/-- These sub-options make up a value. -/
def ConsistsOf (value : Bytes) (found : List (UInt8 × Bytes)) : Prop :=
  value = encodeSubOptions found ∧ ∀ sub ∈ found, IsSubOption sub

theorem consistsOf_nil_iff : ConsistsOf [] found ↔ found = [] := by
  cases found with
  | nil => simp [ConsistsOf, encodeSubOptions]
  | cons sub later => simp [ConsistsOf, encodeSubOptions, encodeSubOption]

theorem not_consistsOf_singleton (byte : UInt8) : ¬ ConsistsOf [byte] found := by
  cases found with
  | nil => simp [ConsistsOf, encodeSubOptions]
  | cons sub later => simp [ConsistsOf, encodeSubOptions, encodeSubOption]

/-- The first sub-option is the one that the first two bytes announce. -/
theorem consistsOf_cons_cons_iff :
    ConsistsOf (tag :: length :: rest) found ↔
      ∃ part later behind, Bytes.splitExactly length.toNat rest = some (part, later) ∧
        (tag = circuitTag ∨ tag = identityTag) ∧ ConsistsOf later behind ∧
        found = (tag, part) :: behind := by
  constructor
  · intro consists
    rcases consists with ⟨bytes, subOptions⟩
    rcases found with _ | ⟨⟨first, part⟩, behind⟩
    · cases bytes
    · rcases subOptions _ List.mem_cons_self with ⟨known, short⟩
      have joined : tag :: length :: rest =
          first :: UInt8.ofNat part.length :: (part ++ encodeSubOptions behind) := bytes
      simp only [List.cons.injEq] at joined
      rcases joined with ⟨rfl, rfl, rfl⟩
      refine ⟨part, encodeSubOptions behind, behind, ?_, known, ⟨rfl, ?_⟩, rfl⟩
      · rw [Bytes.splitExactly_eq_some_iff, UInt8.toNat_ofNat_of_lt' short]
        exact ⟨rfl, rfl⟩
      · exact fun sub member => subOptions sub (List.mem_cons_of_mem _ member)
  · intro split
    rcases split with ⟨part, later, behind, split, known, ⟨rfl, subOptions⟩, rfl⟩
    rcases Bytes.splitExactly_eq_some_iff.1 split with ⟨rfl, size⟩
    have short : part.length < 256 := size ▸ length.toNat_lt
    constructor
    · simp [encodeSubOptions, encodeSubOption, size]
    · intro sub member
      rcases List.mem_cons.1 member with rfl | behind
      · exact ⟨known, short⟩
      · exact subOptions sub behind

theorem subOptions_of_none (short : Bytes.splitExactly length.toNat rest = none) :
    subOptions (tag :: length :: rest) = none := by
  rw [subOptions]
  split
  · rfl
  · simp_all

theorem subOptions_of_some {later : Bytes}
    (enough : Bytes.splitExactly length.toNat rest = some (part, later)) :
    subOptions (tag :: length :: rest) =
      if tag = circuitTag ∨ tag = identityTag then
        (subOptions later).map ((tag, part) :: ·)
      else
        none := by
  rw [subOptions]
  split
  · simp_all
  · simp_all

/-- The sub-options that are read of a value are those that make it up. -/
theorem subOptions_eq_some_iff : subOptions value = some found ↔ ConsistsOf value found := by
  fun_induction subOptions value generalizing found with
  | case1 => simp [consistsOf_nil_iff, eq_comm]
  | case2 byte => simp [not_consistsOf_singleton]
  | case3 tag length rest split => simp [consistsOf_cons_cons_iff, split]
  | case4 tag length rest part later split known ih =>
      rw [Option.map_eq_some_iff, consistsOf_cons_cons_iff]
      constructor
      · intro read
        rcases read with ⟨behind, read, rfl⟩
        exact ⟨part, later, behind, split, known, ih.1 read, rfl⟩
      · intro consists
        rcases consists with ⟨_, _, behind, again, _, consists, rfl⟩
        cases split.symm.trans again
        exact ⟨behind, ih.2 consists, rfl⟩
  | case5 tag length rest part later split unknown =>
      simp [consistsOf_cons_cons_iff, split, unknown]

/-! ## The values that count -/

/-- A value is that of the last sub-option with a tag. -/
def HasLast (tag : UInt8) (part : Bytes) (found : List (UInt8 × Bytes)) : Prop :=
  ∃ front back, found = front ++ (tag, part) :: back ∧ ∀ sub ∈ back, sub.1 ≠ tag

theorem lastValue_eq_some_iff : lastValue tag found = some part ↔ HasLast tag part found := by
  rw [lastValue, List.getLast?_eq_head?_reverse, ← List.filter_reverse, List.head?_filter,
    Option.map_eq_some_iff]
  constructor
  · intro last
    rcases last with ⟨⟨first, _⟩, sought, rfl⟩
    rcases List.find?_eq_some_iff_append.1 sought with ⟨tagged, back, front, split, others⟩
    cases beq_iff_eq.1 tagged
    refine ⟨front.reverse, back.reverse, ?_, ?_⟩
    · rw [← List.reverse_reverse found, split]
      simp
    · intro sub member
      simpa using others sub (List.mem_reverse.1 member)
  · intro last
    rcases last with ⟨front, back, rfl, others⟩
    refine ⟨(tag, part), ?_, rfl⟩
    rw [List.find?_eq_some_iff_append]
    refine ⟨beq_self_eq_true tag, back.reverse, front.reverse, by simp, ?_⟩
    intro sub member
    simpa using others sub (List.mem_reverse.1 member)

theorem circuitOf?_eq_some_iff : circuitOf? part = some circuit ↔ part = Bytes.ofWord32 circuit := by
  rw [circuitOf?]
  constructor
  · intro read
    split at read
    · rename_i four
      cases read
      exact (Bytes.ofWord32_ofNat_number four).symm
    · cases read
  · intro written
    have four : part.length = 4 := written ▸ rfl
    rw [if_pos four, written, Bytes.number_ofWord32, UInt32.ofNat_toNat]

/-! ## The verdict -/

/-- The bytes of an identity are those of this relay; `address` is what it is known by if
that is an address. -/
def IsOwnIdentity (links : Topology) (part : Bytes) (address : Option IPv4) :
    IdentityKind → Prop
  | .mac => part = links.ownMac.octets ∧ address = none
  | .ip => ∃ own, part = own.octets ∧ links.Owns own ∧ address = some own

/-- The value of an agent option names a circuit and this relay. -/
def NamesRelay (value : Bytes) (kind : IdentityKind) (links : Topology) (circuit : UInt32)
    (address : Option IPv4) : Prop :=
  ∃ found part, ConsistsOf value found ∧ HasLast circuitTag (Bytes.ofWord32 circuit) found ∧
    HasLast identityTag part found ∧ IsOwnIdentity links part address kind

theorem judgeIdentity_ne_invalid : judgeIdentity kind links circuit part ≠ .invalid := by
  cases kind with
  | mac =>
      rw [judgeIdentity]
      split <;> simp
  | ip =>
      simp only [judgeIdentity]
      cases IPv4.ofOctets? part with
      | none => simp
      | some own =>
          dsimp only
          split <;> simp

theorem judgeIdentity_eq_ours_iff {named : UInt32} :
    judgeIdentity kind links named part = .ours circuit address ↔
      named = circuit ∧ IsOwnIdentity links part address kind := by
  cases kind with
  | mac =>
      simp only [judgeIdentity, IsOwnIdentity]
      split <;> simp_all [eq_comm]
  | ip =>
      simp only [judgeIdentity, IsOwnIdentity, ← IPv4.ofOctets?_eq_some_iff]
      cases IPv4.ofOctets? part with
      | none => simp
      | some own =>
          dsimp only
          by_cases owned : links.Owns own
          · rw [if_pos (Topology.isSome_ownerOf_iff.2 owned)]
            simp [owned, eq_comm]
          · rw [if_neg fun found => owned (Topology.isSome_ownerOf_iff.1 found)]
            simp only [reduceCtorEq, false_iff, not_and, not_exists, Option.some.injEq]
            intro _ other same
            exact fun owns => absurd (same ▸ owns) owned

theorem judge_eq_invalid_iff :
    judge value kind links = .invalid ↔ ¬ ∃ found, ConsistsOf value found := by
  simp only [← subOptions_eq_some_iff]
  rw [judge]
  cases subOptions value with
  | none => simp
  | some found =>
      dsimp only
      split
      · simp [judgeIdentity_ne_invalid]
      · simp

theorem judge_eq_ours_iff :
    judge value kind links = .ours circuit address ↔ NamesRelay value kind links circuit address := by
  constructor
  · intro ours
    rw [judge] at ours
    cases read : subOptions value with
    | none => simp [read] at ours
    | some found =>
        simp only [read] at ours
        split at ours
        · rename_i named part number last
          rcases judgeIdentity_eq_ours_iff.1 ours with ⟨rfl, own⟩
          rcases Option.bind_eq_some_iff.1 number with ⟨digits, first, word⟩
          rw [circuitOf?_eq_some_iff] at word
          subst word
          exact ⟨found, part, subOptions_eq_some_iff.1 read, lastValue_eq_some_iff.1 first,
            lastValue_eq_some_iff.1 last, own⟩
        · simp at ours
  · intro names
    rcases names with ⟨found, part, consists, first, last, own⟩
    have number : (lastValue circuitTag found).bind circuitOf? = some circuit := by
      rw [lastValue_eq_some_iff.2 first, Option.bind_some, circuitOf?_eq_some_iff]
    rw [judge, subOptions_eq_some_iff.2 consists]
    simp only [number, lastValue_eq_some_iff.2 last]
    exact judgeIdentity_eq_ours_iff.2 ⟨rfl, own⟩

/-- A value is malformed if no sub-options make it up, and one of this relay if it names its
identity.  Any other is of another relay. -/
theorem judge_iff (value : Bytes) (kind : IdentityKind) (links : Topology) :
    (judge value kind links = .invalid ↔ ¬ ∃ found, ConsistsOf value found) ∧
      (∀ circuit address, judge value kind links = .ours circuit address ↔
        NamesRelay value kind links circuit address) ∧
      (judge value kind links = .mismatch ↔ (∃ found, ConsistsOf value found) ∧
        ¬ ∃ circuit address, NamesRelay value kind links circuit address) := by
  refine ⟨judge_eq_invalid_iff, fun circuit address => judge_eq_ours_iff, ?_⟩
  have wellFormed : (∃ found, ConsistsOf value found) ↔ judge value kind links ≠ .invalid := by
    rw [ne_eq, judge_eq_invalid_iff, Classical.not_not]
  rw [wellFormed]
  simp only [← judge_eq_ours_iff]
  cases judge value kind links with
  | ours circuit address => simp
  | invalid => simp
  | mismatch => simp

end Dhcp4.AgentInfo

end DhcpRelay
