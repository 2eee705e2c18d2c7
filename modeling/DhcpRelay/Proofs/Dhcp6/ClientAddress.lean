import DhcpRelay.Dhcp6.Compose
import DhcpRelay.Proofs.Dhcp6.Codec
import Mathlib.Data.List.Basic

/-!
# Whose hardware address is found

A client is named by the first client identifier that can be read, if this was made from an
Ethernet address.  A client that is not named so is known by the modified EUI-64 in the
link-local address it sends from.  Either way the address that went in is the one that is found.
-/

namespace DhcpRelay

/-! ## Interface identifiers -/

/-- The modified EUI-64 of an Ethernet address. -/
def Mac.eui64 (mac : Mac) : Bytes :=
  [mac.octets.byteAt 0 ^^^ 2, mac.octets.byteAt 1, mac.octets.byteAt 2, 255, 254,
    mac.octets.byteAt 3, mac.octets.byteAt 4, mac.octets.byteAt 5]

theorem Mac.octets_eq (mac : Mac) :
    mac.octets = [mac.octets.byteAt 0, mac.octets.byteAt 1, mac.octets.byteAt 2,
      mac.octets.byteAt 3, mac.octets.byteAt 4, mac.octets.byteAt 5] := by
  have listed := mac.octets.eq_map_byteAt
  rwa [mac.length_octets] at listed

/-- The second half of an address. -/
def IPv6.interfaceIdentifier (address : IPv6) : Bytes :=
  address.octets.drop 8

theorem IPv6.interfaceIdentifier_eq (address : IPv6) :
    address.interfaceIdentifier = [address.octet 8, address.octet 9, address.octet 10,
      address.octet 11, address.octet 12, address.octet 13, address.octet 14,
      address.octet 15] := by
  have listed := address.octets.eq_map_byteAt
  rw [address.length_octets] at listed
  exact congrArg (List.drop 8) listed

namespace Dhcp6

variable {source : IPv6} {message identifier : Bytes} {mac : Mac}

theorem eui64Mac?_eq_some_iff :
    eui64Mac? source = some mac ↔ source.interfaceIdentifier = mac.eui64 := by
  have twice : ∀ octet : UInt8, octet ^^^ 2 ^^^ 2 = octet := fun octet => by
    rw [UInt8.xor_assoc, UInt8.xor_self, UInt8.xor_zero]
  rw [IPv6.interfaceIdentifier_eq, Mac.eui64]
  constructor
  · intro made
    rw [eui64Mac?] at made
    split at made
    · rename_i marked
      have octets := Mac.ofOctets?_eq_some_iff.1 made
      rw [← octets, marked.1, marked.2]
      simp [Bytes.byteAt, twice]
    · cases made
  · intro same
    simp only [List.cons.injEq, and_true] at same
    rcases same with ⟨first, second, third, high, low, fourth, fifth, sixth⟩
    rw [eui64Mac?, if_pos ⟨high, low⟩, Mac.ofOctets?_eq_some_iff, first, second, third, fourth,
      fifth, sixth, twice]
    exact mac.octets_eq.symm

theorem eui64Mac?_eq_none_iff :
    eui64Mac? source = none ↔ ¬ (source.octet 11 = 255 ∧ source.octet 12 = 254) := by
  simp [eui64Mac?, Mac.ofOctets?]

/-! ## Client identifiers -/

/-- An identifier that is made from an Ethernet address, alone or with a time. -/
inductive NamesMac : Bytes → Mac → Prop where
  | alone (mac : Mac) : NamesMac ([0, 3, 0, 1] ++ mac.octets) mac
  | timed (time : Bytes) (four : time.length = 4) (mac : Mac) :
      NamesMac ([0, 1, 0, 1] ++ time ++ mac.octets) mac

theorem identifierMac?_words (kind hardware : UInt16) (behind : Bytes) :
    identifierMac? (Bytes.ofWord16 kind ++ Bytes.ofWord16 hardware ++ behind) =
      if hardware ≠ ethernet then
        none
      else if kind = linkLayerTimeIdentifier then
        Mac.ofOctets? (behind.drop 4)
      else if kind = linkLayerIdentifier then
        Mac.ofOctets? behind
      else
        none := by
  generalize written : Bytes.ofWord16 kind ++ Bytes.ofWord16 hardware ++ behind = identifier
  have four : ¬ identifier.length < 4 := by simp [← written, Bytes.ofWord16]
  have first : identifier.word16At 0 = kind := written ▸ Bytes.word16_ofNat kind
  have second : identifier.word16At 2 = hardware := written ▸ Bytes.word16_ofNat hardware
  have further : identifier.drop 8 = behind.drop 4 := written ▸ rfl
  have rest : identifier.drop 4 = behind := written ▸ rfl
  rw [identifierMac?, first, second, further, rest]
  simp only [four, false_or]

theorem identifierMac?_eq_some_iff :
    identifierMac? identifier = some mac ↔ NamesMac identifier mac := by
  constructor
  · intro named
    by_cases short : identifier.length < 4
    · rw [identifierMac?, if_pos (.inl short)] at named
      cases named
    · have whole := Bytes.eq_words_append_drop (Nat.not_lt.1 short)
      generalize identifier.word16At 0 = kind, identifier.word16At 2 = hardware,
        identifier.drop 4 = behind at whole
      subst whole
      rw [identifierMac?_words] at named
      split_ifs at named with other timed alone
      · have octets := Mac.ofOctets?_eq_some_iff.1 named
        have size := congrArg List.length octets
        rw [List.length_drop, mac.length_octets] at size
        -- The six octets of the address leave four bytes for the time.
        rw [not_not.1 other, timed, ← List.take_append_drop 4 behind, octets, ← List.append_assoc]
        refine .timed _ (List.length_take_of_le ?_) mac
        omega
      · rw [not_not.1 other, alone, Mac.ofOctets?_eq_some_iff.1 named]
        exact .alone mac
  · intro names
    cases names with
    | alone =>
        exact (identifierMac?_words linkLayerIdentifier ethernet mac.octets).trans
          (Mac.ofOctets?_octets mac)
    | timed time four =>
        refine (identifierMac?_words linkLayerTimeIdentifier ethernet (time ++ mac.octets)).trans ?_
        rw [if_neg (not_not.2 rfl), if_pos rfl, List.drop_left' four]
        exact Mac.ofOctets?_octets mac

/-- Behind the first four bytes of a message, this is the first client identifier among options
that are whole. -/
def FirstIdentifier (message identifier : Bytes) : Prop :=
  ∃ before behind,
    message.drop minimumSize =
      encodeOptions (before ++ [(clientIdCode, identifier)]) ++ behind ∧
    AllFit (before ++ [(clientIdCode, identifier)]) ∧
    ∀ option ∈ before, option.1 ≠ clientIdCode

/-- Nothing is read where an area ends or breaks off. -/
theorem pairs_contents_of_end {rest : Bytes} (ends : rest = [] ∨ Framing.BreaksOff6 rest) :
    (Framing.dhcp6.contents rest).pairs = [] := by
  rcases ends with rfl | broken
  · have reading : Framing.dhcp6.read [] = .exhausted 0 := rfl
    rw [Framing.contents_of_exhausted reading]
  · have reading : Framing.dhcp6.read rest = .truncated 0 := Framing.read6_of_breaksOff broken
    rw [Framing.contents_of_truncated reading]

/-- The first client identifier is looked for among the options that are read. -/
theorem clientIdentifier_eq (message : Bytes) :
    clientIdentifier message =
      ((Framing.dhcp6.contents (message.drop minimumSize)).pairs.find?
        (·.1 == clientIdCode)).map (·.2) := by
  have listed : (Framing.dhcp6.contents (message.drop minimumSize)).pairs =
      (Framing.dhcp6.walk (message.drop minimumSize)).options.map Tlv.pair := rfl
  rw [clientIdentifier]
  split
  · rename_i short
    rw [List.drop_eq_nil_of_le (Nat.le_of_lt short), pairs_contents_of_end (.inl rfl)]
    rfl
  · rw [listed, List.find?_map, Option.map_map]
    rfl

theorem clientIdentifier_eq_some_iff :
    clientIdentifier message = some identifier ↔ FirstIdentifier message identifier := by
  rw [clientIdentifier_eq]
  constructor
  · intro found
    -- What cannot be read stands behind whole options, so these hold the one that is found.
    rcases exists_options (message.drop minimumSize) with ⟨options, rest, fit, whole, ends⟩
    rw [whole, contents_encodeOptions_append fit, Contents.prepend, pairs_contents_of_end ends,
      List.append_nil, Option.map_eq_some_iff] at found
    rcases found with ⟨⟨code, value⟩, first, rfl⟩
    rcases find?_code_eq_some_iff.1 first with ⟨rfl, before, after, rfl, others⟩
    rw [List.append_cons] at whole fit
    rw [encodeOptions_append, List.append_assoc] at whole
    exact ⟨before, _, whole, (List.forall_mem_append.1 fit).1, others⟩
  · intro first
    rcases first with ⟨before, behind, whole, fit, others⟩
    rw [whole, contents_encodeOptions_append fit, Option.map_eq_some_iff]
    exact ⟨(clientIdCode, identifier),
      find?_code_eq_some_iff.2 ⟨rfl, before, _, List.append_assoc .., others⟩, rfl⟩

/-! ## The address that is found -/

/-- The first client identifier of a message is made from this address. -/
def NamesClient (message : Bytes) (mac : Mac) : Prop :=
  ∃ identifier, FirstIdentifier message identifier ∧ NamesMac identifier mac

/-- The address, if any, by which the sender of a message is known. -/
inductive Identifies (source : IPv6) (message : Bytes) : Option Mac → Prop where
  /-- The message names it. -/
  | byMessage {mac : Mac} (named : NamesClient message mac) :
      Identifies source message (some mac)
  /-- The message names none, and the link-local source is made from it. -/
  | bySource {mac : Mac} (unnamed : ∀ other, ¬ NamesClient message other)
      (linkLocal : source.isLinkLocal) (made : source.interfaceIdentifier = mac.eui64) :
      Identifies source message (some mac)
  /-- The message names none, and the source is not made from one. -/
  | unknown (unnamed : ∀ other, ¬ NamesClient message other)
      (unmarked : ¬ (source.isLinkLocal ∧ source.octet 11 = 255 ∧ source.octet 12 = 254)) :
      Identifies source message none

theorem identifierMac?_clientIdentifier_eq_some_iff :
    (clientIdentifier message).bind identifierMac? = some mac ↔ NamesClient message mac := by
  simp only [Option.bind_eq_some_iff, clientIdentifier_eq_some_iff, identifierMac?_eq_some_iff,
    NamesClient]

theorem hardwareAddressOf_of_namesClient (named : NamesClient message mac) (source : IPv6) :
    hardwareAddressOf source message = some mac := by
  rw [hardwareAddressOf, identifierMac?_clientIdentifier_eq_some_iff.2 named]

theorem hardwareAddressOf_of_unnamed (unnamed : ∀ other, ¬ NamesClient message other)
    (source : IPv6) :
    hardwareAddressOf source message = if source.isLinkLocal then eui64Mac? source else none := by
  have nothing : (clientIdentifier message).bind identifierMac? = none := by
    refine Option.eq_none_iff_forall_ne_some.2 fun other found => ?_
    exact unnamed other (identifierMac?_clientIdentifier_eq_some_iff.1 found)
  rw [hardwareAddressOf, nothing]

theorem hardwareAddressOf_of_identifies {found : Option Mac}
    (identifies : Identifies source message found) : hardwareAddressOf source message = found := by
  cases identifies with
  | byMessage named => exact hardwareAddressOf_of_namesClient named source
  | bySource unnamed linkLocal made =>
      rw [hardwareAddressOf_of_unnamed unnamed, if_pos linkLocal, eui64Mac?_eq_some_iff.2 made]
  | unknown unnamed unmarked =>
      rw [hardwareAddressOf_of_unnamed unnamed]
      split
      · rename_i linkLocal
        exact eui64Mac?_eq_none_iff.2 fun marked => unmarked ⟨linkLocal, marked⟩
      · rfl

theorem identifies_hardwareAddressOf (source : IPv6) (message : Bytes) :
    Identifies source message (hardwareAddressOf source message) := by
  by_cases named : ∃ mac, NamesClient message mac
  · rcases named with ⟨mac, named⟩
    rw [hardwareAddressOf_of_namesClient named]
    exact .byMessage named
  · have unnamed := not_exists.1 named
    rw [hardwareAddressOf_of_unnamed unnamed]
    split
    · rename_i linkLocal
      cases made : eui64Mac? source with
      | some mac => exact .bySource unnamed linkLocal (eui64Mac?_eq_some_iff.1 made)
      | none => exact .unknown unnamed fun marked => eui64Mac?_eq_none_iff.1 made marked.2
    · rename_i global
      exact .unknown unnamed fun marked => global marked.1

/-- A written message names the client whose identifier is the first in it. -/
theorem namesClient_of_written {header : Bytes} (size : header.length = minimumSize)
    {before after : List (UInt16 × Bytes)}
    (fit : AllFit (before ++ (clientIdCode, identifierOf mac) :: after))
    (others : ∀ option ∈ before, option.1 ≠ clientIdCode) :
    NamesClient (header ++ encodeOptions (before ++ (clientIdCode, identifierOf mac) :: after))
      mac := by
  rw [List.append_cons] at fit ⊢
  refine ⟨identifierOf mac, ⟨before, encodeOptions after, ?_, ?_, others⟩, .alone mac⟩
  · rw [List.drop_left' size, encodeOptions_append]
  · exact (List.forall_mem_append.1 fit).1

/-- The address that is found is the one by which the sender is known: the message names it with
its first client identifier, or else the link-local source is made from it.  So a client is
found that is the first to name itself in a written message, and one that sends from the
link-local address made from its own a message that names nobody. -/
theorem hardwareAddressOf_eq_iff_identifies :
    (∀ source message found,
      hardwareAddressOf source message = found ↔ Identifies source message found) ∧
    (∀ source mac header before after, header.length = minimumSize →
      AllFit (before ++ (clientIdCode, identifierOf mac) :: after) →
      (∀ option ∈ before, option.1 ≠ clientIdCode) →
      hardwareAddressOf source
        (header ++ encodeOptions (before ++ (clientIdCode, identifierOf mac) :: after)) =
          some mac) ∧
    ∀ (source : IPv6) (mac : Mac) message, source.isLinkLocal →
      source.interfaceIdentifier = mac.eui64 → (∀ other, ¬ NamesClient message other) →
      hardwareAddressOf source message = some mac := by
  refine ⟨fun source message found => ⟨?_, hardwareAddressOf_of_identifies⟩, ?_, ?_⟩
  · rintro rfl
    exact identifies_hardwareAddressOf source message
  · intro source mac header before after size fit others
    exact hardwareAddressOf_of_namesClient (namesClient_of_written size fit others) source
  · intro source mac message linkLocal made unnamed
    exact hardwareAddressOf_of_identifies (.bySource unnamed linkLocal made)

/-- A client that is named in its message behind another option, and one that is not. -/
theorem hardwareAddressOf_eq_iff_identifies_solicit :
    let mac : Mac := ⟨[82, 84, 0, 18, 52, 86], rfl⟩
    let other : Mac := ⟨[2, 0, 0, 0, 0, 1], rfl⟩
    let interface : Bytes := [80, 84, 0, 255, 254, 18, 52, 86]
    let linkLocal : IPv6 := ⟨[254, 128, 0, 0, 0, 0, 0, 0] ++ interface, rfl⟩
    let global : IPv6 := ⟨[32, 1, 13, 184, 0, 0, 0, 0] ++ interface, rfl⟩
    let options := [(8, [0, 0])] ++ [(clientIdCode, identifierOf other)]
    hardwareAddressOf linkLocal ([1, 0, 0, 1] ++ encodeOptions options) = some other ∧
    hardwareAddressOf linkLocal [1, 0, 0, 1] = some mac ∧
    Identifies global [1, 0, 0, 1] none := by
  intro mac other interface linkLocal global options
  have fit : AllFit options := by
    rw [AllFit]
    decide
  have unnamed : ∀ any, ¬ NamesClient [1, 0, 0, 1] any := by
    intro any names
    rcases names with ⟨identifier, first, _⟩
    have nothing : clientIdentifier [1, 0, 0, 1] = none := by decide +kernel
    cases nothing.symm.trans (clientIdentifier_eq_some_iff.2 first)
  rcases hardwareAddressOf_eq_iff_identifies with ⟨identifies, fromMessage, fromSource⟩
  refine ⟨?_, ?_, ?_⟩
  · exact fromMessage linkLocal other [1, 0, 0, 1] [(8, [0, 0])] [] rfl fit (by decide)
  · exact fromSource linkLocal mac [1, 0, 0, 1] (by decide) (by decide) unnamed
  · exact (identifies global [1, 0, 0, 1] none).1 (by decide +kernel)

end Dhcp6

end DhcpRelay
