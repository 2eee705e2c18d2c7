import DhcpRelay.Dhcp6.Delivery
import DhcpRelay.Proofs.Bytes
import DhcpRelay.Proofs.OptionArea

/-!
# Envelopes that are written and read back

An area of DHCPv6 options holds what was written into it, as long as the length of each
value fits its length word.  The header in front of it is read back field by field.
-/

namespace DhcpRelay

theorem IPv6.readAt_eq_of_drop {bytes rest : Bytes} {index : Nat} {address : IPv6}
    (here : bytes.drop index = address.octets ++ rest) : IPv6.readAt bytes index = address := by
  rcases address with ⟨octets, size⟩
  simp only [readAt, IPv6.mk.injEq]
  rw [here, List.take_left' size, Bytes.padTo, size, Nat.sub_self, List.replicate_zero,
    List.append_nil]

theorem IPv6.octets_readAt {bytes : Bytes} {index : Nat} (within : index + 16 ≤ bytes.length) :
    (IPv6.readAt bytes index).octets = (bytes.drop index).take 16 := by
  have size : ((bytes.drop index).take 16).length = 16 := by
    rw [List.length_take, List.length_drop]
    omega
  change Bytes.padTo ((bytes.drop index).take 16) 16 = _
  rw [Bytes.padTo, size, Nat.sub_self, List.replicate_zero, List.append_nil]

namespace Framing

theorem read6_encode6_append {value : Bytes} (short : value.length ≤ 65535) (code : UInt16)
    (area : Bytes) : read6 (Tlv.encode6 code value ++ area) = .option 0 code value area := by
  have written : Tlv.encode6 code value ++ area =
      UInt8.ofNat (code.toNat / 256) :: UInt8.ofNat code.toNat ::
        UInt8.ofNat ((UInt16.ofNat value.length).toNat / 256) ::
        UInt8.ofNat (UInt16.ofNat value.length).toNat :: (value ++ area) := by
    simp [Tlv.encode6, Bytes.ofWord16]
  have size : (UInt16.ofNat value.length).toNat = value.length :=
    UInt16.toNat_ofNat_of_lt' (Nat.lt_succ_of_le short)
  have split : Bytes.splitExactly value.length (value ++ area) = some (value, area) :=
    Bytes.splitExactly_eq_some_iff.2 ⟨rfl, rfl⟩
  rw [written, read6, Bytes.word16_ofNat, Bytes.word16_ofNat, size, split]

theorem contents_encode6_append {value : Bytes} (short : value.length ≤ 65535) (code : UInt16)
    (area : Bytes) :
    dhcp6.contents (Tlv.encode6 code value ++ area) =
      (dhcp6.contents area).prepend [(code, value)] := by
  have reading : dhcp6.read (Tlv.encode6 code value ++ area) = .option 0 code value area :=
    read6_encode6_append short code area
  exact contents_of_option reading

end Framing

namespace Dhcp6

theorem MessageType.code_of_ofCode? {code : UInt8} {type : MessageType}
    (known : ofCode? code = some type) : type.code = code := by
  rw [ofCode?] at known
  have found := List.find?_some known
  exact beq_iff_eq.1 found

/-- The type of a message is written in its first byte. -/
theorem byteAt_of_typeOf {message : Bytes} {type : MessageType}
    (typed : typeOf message = .ok type) : message.byteAt 0 = type.code := by
  rw [typeOf] at typed
  split at typed
  · cases typed
  · cases known : MessageType.ofCode? (message.byteAt 0) with
    | none =>
        rw [known] at typed
        cases typed
    | some kind =>
        rw [known] at typed
        cases typed
        exact (MessageType.code_of_ofCode? known).symm

/-- An area holds the options that were written into it, and what stands behind them. -/
theorem contents_encodeOptions_append {options : List (UInt16 × Bytes)}
    (short : ∀ option ∈ options, option.2.length ≤ 65535) (behind : Bytes) :
    Framing.dhcp6.contents (encodeOptions options ++ behind) =
      (Framing.dhcp6.contents behind).prepend options := by
  induction options with
  | nil => rfl
  | cons option rest ih =>
      rw [List.forall_mem_cons] at short
      have written : encodeOptions (option :: rest) =
          Tlv.encode6 option.1 option.2 ++ encodeOptions rest := rfl
      rw [written, List.append_assoc, Framing.contents_encode6_append short.1, ih short.2,
        Contents.prepend_prepend]
      rfl

/-- An area holds the options that were written into it. -/
theorem contents_encodeOptions {options : List (UInt16 × Bytes)}
    (short : ∀ option ∈ options, option.2.length ≤ 65535) :
    Framing.dhcp6.contents (encodeOptions options) = ⟨options, false⟩ := by
  have nothing : Framing.dhcp6.read [] = .exhausted 0 := rfl
  rw [← List.append_nil (encodeOptions options), contents_encodeOptions_append short,
    Framing.contents_of_exhausted nothing, Contents.prepend, List.append_nil]

namespace Envelope

/-- An envelope is read back. -/
theorem decode_bytes (envelope : Envelope) : decode envelope.bytes = .ok envelope := by
  rcases envelope with ⟨⟨type, hopCount, link, peer⟩, area⟩
  have linkSize := link.length_octets
  have peerSize := peer.length_octets
  generalize written : bytes ⟨⟨type, hopCount, link, peer⟩, area⟩ = message
  have whole : message = type :: hopCount :: (link.octets ++ (peer.octets ++ area)) := by
    simp [← written, bytes]
  have length : message.length = envelopeHeaderSize + area.length := by
    simp only [whole, envelopeHeaderSize, List.length_cons, List.length_append, linkSize,
      peerSize]
    omega
  have behind : message.drop 2 = link.octets ++ (peer.octets ++ area) := by
    rw [whole]
    rfl
  have further : message.drop 18 = peer.octets ++ area := by
    rw [show 18 = 2 + 16 from rfl, ← List.drop_drop, behind, List.drop_left' linkSize]
  have rest : message.drop envelopeHeaderSize = area := by
    rw [show envelopeHeaderSize = 18 + 16 from rfl, ← List.drop_drop, further,
      List.drop_left' peerSize]
  have read : message.byteAt 0 = type ∧ message.byteAt 1 = hopCount := by
    rw [whole]
    exact ⟨rfl, rfl⟩
  rw [decode, if_neg (by omega), read.1, read.2, IPv6.readAt_eq_of_drop behind,
    IPv6.readAt_eq_of_drop further, rest]

theorem length_bytes (envelope : Envelope) :
    envelope.bytes.length = envelopeHeaderSize + envelope.optionArea.length := by
  simp only [bytes, envelopeHeaderSize, List.length_append, List.length_cons, List.length_nil,
    envelope.header.link.length_octets, envelope.header.peer.length_octets]

/-- The kind of an envelope is the type in its header. -/
theorem typeOf_of_decode {message : Bytes} {envelope : Envelope}
    (decoded : decode message = .ok envelope) {type : MessageType}
    (coded : envelope.header.type = type.code) : typeOf message = .ok type := by
  rw [decode] at decoded
  split at decoded
  · cases decoded
  · rename_i whole
    have size : ¬ message.length < minimumSize := by
      simp only [envelopeHeaderSize, minimumSize] at whole ⊢
      omega
    cases decoded
    rw [typeOf, if_neg size, show message.byteAt 0 = type.code from coded,
      MessageType.ofCode?_code]

end Envelope

end Dhcp6

end DhcpRelay
