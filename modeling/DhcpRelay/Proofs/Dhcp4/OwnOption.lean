import DhcpRelay.Proofs.Dhcp4.AgentVerdict
import DhcpRelay.Proofs.Dhcp4.ReplyOptions
import DhcpRelay.Proofs.Dhcp4.RequestOptions

/-!
# The option of this relay on its way back

A server sends the option that a relay wrote back to it.  The relay takes it for its own then,
and lets the reply pass.  An option in which the length of a sub-option was changed is never
taken for one: the bytes of the value are too few for another sub-option of the right size.
-/

namespace DhcpRelay

open Dhcp4

/-- This machine is known by the identity. -/
def Topology.Has (links : Topology) : Identity → Prop
  | .mac address => links.ownMac = address
  | .ip address => links.Owns address

/-- The address that an identity is, if it is one. -/
def Dhcp4.Identity.address? : Identity → Option IPv4
  | .mac _ => none
  | .ip address => some address

namespace Dhcp4

variable {message : Bytes} {circuit : UInt32} {identity : Identity} {links : Topology}

namespace AgentInfo

variable {tag : UInt8} {first part : Bytes} {found : List (UInt8 × Bytes)}
  {sub other : UInt8 × Bytes}

/-! ## What is written -/

/-- Two sub-options make up what is written. -/
theorem consistsOf_value (circuit : UInt32) (identity : Identity) :
    ConsistsOf (value circuit identity)
      [(circuitTag, Bytes.ofWord32 circuit), (identityTag, identity.bytes)] := by
  constructor
  · simp [value, encodeSubOptions]
  · have small : identity.bytes.length < 256 := by
      rw [identity.length_bytes]
      cases identity.kind <;> decide
    intro sub member
    simp only [List.mem_cons, List.not_mem_nil, or_false] at member
    rcases member with rfl | rfl
    · exact ⟨.inl rfl, by simp [Bytes.ofWord32]⟩
    · exact ⟨.inr rfl, small⟩

theorem isOwnIdentity_bytes (owned : links.Has identity) :
    IsOwnIdentity links identity.bytes identity.address? identity.kind := by
  cases identity with
  | mac address => exact ⟨congrArg Mac.octets (Eq.symm owned), rfl⟩
  | ip address => exact ⟨address, rfl, owned, rfl⟩

theorem namesRelay_value (owned : links.Has identity) :
    NamesRelay (value circuit identity) identity.kind links circuit identity.address? :=
  ⟨_, identity.bytes, consistsOf_value circuit identity,
    ⟨[], [(identityTag, identity.bytes)], rfl, by simp [circuitTag, identityTag]⟩,
    ⟨[(circuitTag, Bytes.ofWord32 circuit)], [], rfl, by simp⟩, isOwnIdentity_bytes owned⟩

/-! ## The room that sub-options take -/

theorem length_encodeSubOptions_cons (sub : UInt8 × Bytes) (found : List (UInt8 × Bytes)) :
    (encodeSubOptions (sub :: found)).length =
      2 + sub.2.length + (encodeSubOptions found).length := by
  simp [encodeSubOptions, encodeSubOption]
  omega

theorem length_le_of_mem (member : sub ∈ found) :
    2 + sub.2.length ≤ (encodeSubOptions found).length := by
  induction found with
  | nil => simp at member
  | cons head later ih =>
      rw [length_encodeSubOptions_cons]
      rcases List.mem_cons.1 member with rfl | behind
      · omega
      · have room := ih behind
        omega

/-- Two sub-options stand side by side. -/
theorem length_le_of_mem_of_mem (member : sub ∈ found) (also : other ∈ found)
    (differ : sub ≠ other) :
    (2 + sub.2.length) + (2 + other.2.length) ≤ (encodeSubOptions found).length := by
  induction found with
  | nil => simp at member
  | cons head later ih =>
      rw [length_encodeSubOptions_cons]
      rcases List.mem_cons.1 member with rfl | behind
      · have room := length_le_of_mem (List.mem_of_ne_of_mem differ.symm also)
        omega
      · rcases List.mem_cons.1 also with rfl | alsoBehind
        · have room := length_le_of_mem behind
          omega
        · have room := ih behind alsoBehind
          omega

theorem HasLast.mem (last : HasLast tag part found) : (tag, part) ∈ found := by
  rcases last with ⟨front, back, rfl, _⟩
  simp

/-- A sub-option that is not the one that counts can be left out in front. -/
theorem HasLast.mem_of_cons (last : HasLast tag part (sub :: found)) (differ : sub ≠ (tag, part)) :
    (tag, part) ∈ found :=
  List.mem_of_ne_of_mem differ.symm last.mem

theorem IsOwnIdentity.length_eq {address : Option IPv4} {kind : IdentityKind}
    (own : IsOwnIdentity links part address kind) : part.length = kind.size := by
  cases kind with
  | mac =>
      rw [own.1]
      exact links.ownMac.length_octets
  | ip =>
      rcases own with ⟨address, rfl, _⟩
      rfl

/-! ## Changed lengths -/

/-- The value with another length of the circuit. -/
theorem set_circuitLength (circuit : UInt32) (identity : Identity) (length : UInt8) :
    (value circuit identity).set 1 length = circuitTag :: length ::
      (Bytes.ofWord32 circuit ++ encodeSubOption identityTag identity.bytes) := rfl

/-- The value with another length of the identity. -/
theorem set_identityLength (circuit : UInt32) (identity : Identity) (length : UInt8) :
    (value circuit identity).set 7 length = circuitTag :: 4 ::
      (Bytes.ofWord32 circuit ++ identityTag :: length :: identity.bytes) := rfl

/-- With another length the first sub-option is not a circuit, and behind it there is no room for
both a circuit and an identity. -/
theorem not_namesRelay_circuitLength {length : UInt8} (changed : length ≠ 4)
    (named : UInt32) (address : Option IPv4) :
    ¬ NamesRelay ((value circuit identity).set 1 length) identity.kind links named address := by
  intro names
  rcases names with ⟨found, part, consists, circuitLast, identityLast, own⟩
  rw [set_circuitLength] at consists
  rcases consistsOf_cons_cons_iff.1 consists with ⟨first, later, behind, split, _, rest, rfl⟩
  have size := (Bytes.splitExactly_eq_some_iff.1 split).2
  have room := Bytes.length_rest_of_splitExactly split
  have notCircuit : (circuitTag, first) ≠ (circuitTag, Bytes.ofWord32 named) := by
    intro same
    cases same
    exact changed (UInt8.toNat_inj.1 size.symm)
  have notIdentity : (circuitTag, first) ≠ (identityTag, part) := by
    intro same
    cases congrArg Prod.fst same
  have both := length_le_of_mem_of_mem (circuitLast.mem_of_cons notCircuit)
    (identityLast.mem_of_cons notIdentity) (by simp [circuitTag, identityTag])
  rw [← rest.1] at both
  have four : (Bytes.ofWord32 circuit).length = 4 := rfl
  have fourNamed : (Bytes.ofWord32 named).length = 4 := rfl
  simp only [encodeSubOption, List.length_append, List.length_cons, identity.length_bytes, four,
    fourNamed, own.length_eq] at room both
  omega

/-- With another length the second sub-option is not the identity, and behind it there is no room
for one. -/
theorem not_namesRelay_identityLength {length : UInt8}
    (changed : length ≠ UInt8.ofNat identity.kind.size) (named : UInt32)
    (address : Option IPv4) :
    ¬ NamesRelay ((value circuit identity).set 7 length) identity.kind links named address := by
  intro names
  rcases names with ⟨found, part, consists, _, identityLast, own⟩
  rw [set_identityLength] at consists
  rcases consistsOf_cons_cons_iff.1 consists with ⟨first, _, _, split, _, remaining, rfl⟩
  have whole : Bytes.splitExactly (UInt8.toNat 4) (Bytes.ofWord32 circuit ++
      identityTag :: length :: identity.bytes) =
      some (Bytes.ofWord32 circuit, identityTag :: length :: identity.bytes) := rfl
  cases whole.symm.trans split
  rcases consistsOf_cons_cons_iff.1 remaining with ⟨second, later, behind, parted, _, rest, rfl⟩
  have size := (Bytes.splitExactly_eq_some_iff.1 parted).2
  have room := Bytes.length_rest_of_splitExactly parted
  have notFirst : (circuitTag, Bytes.ofWord32 circuit) ≠ (identityTag, part) := by
    intro same
    cases congrArg Prod.fst same
  have notSecond : (identityTag, second) ≠ (identityTag, part) := by
    intro same
    cases same
    refine changed (UInt8.toNat_inj.1 ?_)
    rw [← size, own.length_eq]
    cases identity.kind <;> rfl
  have last : (identityTag, part) ∈ behind :=
    List.mem_of_ne_of_mem notSecond.symm (identityLast.mem_of_cons notFirst)
  have one := length_le_of_mem last
  rw [← rest.1] at one
  simp only [identity.length_bytes, own.length_eq] at room one
  omega

end AgentInfo

/-- A reply that carries the relay's own option, and no malformed one, passes validation. -/
theorem unmarkReply_of_carries {kind : IdentityKind} (cookie : hasCookie message = true)
    (complete : (optionWalk message).truncation? = none)
    (carries : CarriesOwnOption (optionWalk message) kind links)
    (wellFormed : ∀ option ∈ (optionWalk message).agentOptions,
      ∃ found, AgentInfo.ConsistsOf option.value found) :
    unmarkReply message true kind links = ⟨.forward, rewritten message⟩ := by
  have proper : ¬ IsMalformed (optionWalk message) kind links := by
    intro malformed
    rcases malformed with cut | ⟨option, member, invalid⟩
    · simp [complete] at cut
    · exact AgentInfo.judge_eq_invalid_iff.1 invalid (wellFormed option member)
  have marked : (optionWalk message).agentOptions ≠ [] := by
    rcases carries with ⟨option, member, _⟩
    exact List.ne_nil_of_mem member
  rw [unmarkReply_of_passes cookie proper fun lacks => lacks.2.2 carries, if_neg marked]

/-- The option that a relay writes is its own when it comes back: a reply that carries it and no
malformed one passes validation, and is sent on without agent options.  With another length of a
sub-option it is no relay's own. -/
theorem recognizes_value (circuit : UInt32) (identity : Identity) (links : Topology)
    (owned : links.Has identity) :
    let value := AgentInfo.value circuit identity
    let kind := identity.kind
    (Cursor.start .dhcp4 (AgentInfo.insertion circuit identity)).drain.1.map (·.map Tlv.pair) =
        [.ok (agentInfoCode, value)] ∧
      AgentInfo.judge value kind links = .ours circuit identity.address? ∧
      (∀ message, hasCookie message = true → (optionWalk message).truncation? = none →
        (∃ option ∈ (optionWalk message).agentOptions, option.value = value) →
        (∀ option ∈ (optionWalk message).agentOptions,
          ∃ found, AgentInfo.ConsistsOf option.value found) →
        let edited := unmarkReply message true kind links
        edited.result = .forward ∧ (optionWalk edited.message).agentOptions = [] ∧
          IsUnmarked message edited.message) ∧
      (∀ index length, index = 1 ∨ index = 7 → length ≠ value.byteAt index →
        ∀ others named address,
          AgentInfo.judge (value.set index length) kind others ≠ .ours named address) := by
  intro value kind
  have judged : AgentInfo.judge value kind links = .ours circuit identity.address? :=
    AgentInfo.judge_eq_ours_iff.2 (AgentInfo.namesRelay_value owned)
  refine ⟨?_, judged, ?_, ?_⟩
  · have written := contents_insertion_append circuit identity []
    rw [List.append_nil, ← Cursor.map_drain_start_iff] at written
    exact written
  · intro message cookie complete carried wellFormed edited
    rcases carried with ⟨option, member, same⟩
    have carries : CarriesOwnOption (optionWalk message) kind links :=
      ⟨option, member, circuit, identity.address?, same ▸ judged⟩
    have passed : edited = ⟨.forward, rewritten message⟩ :=
      unmarkReply_of_carries cookie complete carries wellFormed
    rw [passed]
    exact ⟨rfl, agentOptions_rewritten cookie,
      isUnmarked_rewritten cookie complete (List.ne_nil_of_mem member)⟩
  · intro index length position changed others named address ours
    have names := AgentInfo.judge_eq_ours_iff.1 ours
    rcases position with rfl | rfl
    · exact AgentInfo.not_namesRelay_circuitLength changed named address names
    · refine AgentInfo.not_namesRelay_identityLength ?_ named address names
      rw [← identity.length_bytes]
      exact changed

/-- A reply with the option of another relay and, behind it, the one of this relay. -/
def returnedReply : Bytes :=
  compose ⟨replyOperation, 7, 0, .unspecified, .unspecified, .zero⟩
    [(53, [5]), (82, [1, 1, 9]), (12, [65]),
      (82, AgentInfo.value 3 (.ip ⟨192, 168, 1, 1⟩))]

theorem recognizes_value_returnedReply :
    let own : Identity := .ip ⟨192, 168, 1, 1⟩
    let value := AgentInfo.value 3 own
    let edited := unmarkReply returnedReply true .ip Relay.twoLinks
    Relay.twoLinks.Has own ∧ hasCookie returnedReply = true ∧
      AgentInfo.judge value .ip Relay.twoLinks = .ours 3 (some ⟨192, 168, 1, 1⟩) ∧
      edited.result = .forward ∧ (optionWalk edited.message).agentOptions = [] ∧
      AgentInfo.judge (value.set 7 2) .ip Relay.twoLinks ≠
        .ours 3 (some ⟨192, 168, 1, 1⟩) := by
  intro own value edited
  have owned : Relay.twoLinks.Has own := by
    refine ⟨⟨3, "eth1", none, false, [⟨⟨192, 168, 1, 1⟩, 24⟩], []⟩, ?_, ⟨⟨192, 168, 1, 1⟩, 24⟩, ?_,
      rfl⟩
    · decide
    · decide
  have cookie : hasCookie returnedReply = true := by decide +kernel
  have complete : (optionWalk returnedReply).truncation? = none := by decide +kernel
  have values : (optionWalk returnedReply).agentOptions.map Tlv.value = [[1, 1, 9], value] := by
    decide +kernel
  have carried : ∃ option ∈ (optionWalk returnedReply).agentOptions, option.value = value := by
    rw [← List.mem_map, values]
    simp
  have wellFormed : ∀ option ∈ (optionWalk returnedReply).agentOptions,
      ∃ found, AgentInfo.ConsistsOf option.value found := by
    intro option member
    have among := List.mem_map_of_mem (f := Tlv.value) member
    rw [values, List.mem_cons, List.mem_singleton] at among
    rcases among with foreign | same
    · exact ⟨[(1, [9])], foreign, by simp [AgentInfo.IsSubOption, AgentInfo.circuitTag]⟩
    · rw [same]
      exact ⟨_, AgentInfo.consistsOf_value 3 own⟩
  rcases recognizes_value 3 own Relay.twoLinks owned with ⟨_, judged, passes, guarded⟩
  rcases passes returnedReply cookie complete carried wellFormed with ⟨forwarded, removed, _⟩
  exact ⟨owned, cookie, judged, forwarded, removed,
    guarded 7 2 (.inr rfl) (by decide) Relay.twoLinks 3 _⟩

end Dhcp4

end DhcpRelay
