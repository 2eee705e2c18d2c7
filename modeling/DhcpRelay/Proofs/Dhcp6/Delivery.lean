import DhcpRelay.Proofs.Dhcp6.Codec
import DhcpRelay.Proofs.Dhcp6.Layer
import Mathlib.Data.List.Basic

/-!
# What a relay-reply asks for

Only whole options ask for anything.  The last relay message among them that can be delivered
is for the peer of the envelope, behind the interface that they name last.  A link-local
peer cannot be reached without one.
-/

namespace DhcpRelay.Dhcp6

/-- The relay messages that can be delivered. -/
def deliverable (options : List (UInt16 × Bytes)) : List Bytes :=
  (valuesOf relayMessageCode options).filter fun value =>
    1 ≤ value.length ∧ value.length ≤ relayMessageLimit

/-- The bytes by which interfaces are named. -/
def interfaceNames (options : List (UInt16 × Bytes)) : List Bytes :=
  (valuesOf interfaceIdCode options).filter (·.length ≤ 4)

/-- The number of the interface that is named last, zero if none is. -/
def lastInterface (options : List (UInt16 × Bytes)) : UInt32 :=
  match (interfaceNames options).getLast? with
  | none => 0
  | some name => UInt32.ofNat (Bytes.number name)

/-- An envelope around these options asks for a message to be delivered to a peer. -/
structure AsksFor (message : Bytes) (options : List (UInt16 × Bytes)) (peer : IPv6)
    (payload : Bytes) : Prop where
  whole : envelopeHeaderSize ≤ message.length
  addressed : (message.drop 18).take 16 = peer.octets
  fit : AllFit options
  laidOut : message.drop envelopeHeaderSize = encodeOptions options
  last : (deliverable options).getLast? = some payload
  reachable : peer.isLinkLocal = true → lastInterface options ≠ 0

namespace Delivery

variable {message : Bytes} {walk : Walk} {peer : IPv6} {delivery : Delivery}

theorem filterMap_valuesOf {Result : Type} (code : UInt16) (pick : Bytes → Option Result)
    (walk : Walk) :
    (valuesOf code walk.pairs).filterMap pick =
      walk.options.filterMap fun option =>
        if option.code = code then pick option.value else none := by
  rw [valuesOf, Walk.pairs, List.filterMap_map, List.filterMap_filterMap]
  refine List.filterMap_congr fun option _ => ?_
  by_cases same : option.code = code <;> simp [same]

theorem filterMap_usableMessage (walk : Walk) :
    walk.options.filterMap usableMessage = deliverable walk.pairs := by
  rw [deliverable, ← List.filterMap_eq_filter, filterMap_valuesOf]
  refine List.filterMap_congr fun option _ => ?_
  simp only [usableMessage, Option.guard, decide_eq_true_eq]
  exact ite_and ..

theorem filterMap_namedInterface (walk : Walk) :
    walk.options.filterMap namedInterface =
      (interfaceNames walk.pairs).map fun name => UInt32.ofNat (Bytes.number name) := by
  rw [interfaceNames, ← List.filterMap_eq_filter, List.map_filterMap, filterMap_valuesOf]
  refine List.filterMap_congr fun option _ => ?_
  rw [namedInterface, ite_and]
  simp only [Option.guard, decide_eq_true_eq]
  split
  · split <;> rfl
  · rfl

theorem getLast?_namedInterface (walk : Walk) :
    (walk.options.filterMap namedInterface).getLast?.getD 0 = lastInterface walk.pairs := by
  rw [filterMap_namedInterface, List.getLast?_map, lastInterface]
  cases (interfaceNames walk.pairs).getLast? <;> rfl

/-- Whole options ask for a delivery to a peer that can be reached. -/
theorem ofOptions_eq_ok_iff :
    ofOptions peer walk = .ok delivery ↔
      walk.truncation? = none ∧ (deliverable walk.pairs).getLast? = some delivery.payload ∧
        lastInterface walk.pairs = delivery.interface ∧ peer = delivery.peer ∧
        (peer.isLinkLocal = true → lastInterface walk.pairs ≠ 0) := by
  rcases delivery with ⟨payload, interface, target⟩
  rw [ofOptions, filterMap_usableMessage, getLast?_namedInterface]
  cases walk.truncation? with
  | some offset => simp
  | none =>
      cases (deliverable walk.pairs).getLast? with
      | none => simp
      | some last =>
          dsimp only
          split
          · simp_all
          · simp_all

/-- The peer stands in the header. -/
theorem readAt_eq_iff (whole : envelopeHeaderSize ≤ message.length) :
    IPv6.readAt message 18 = peer ↔ (message.drop 18).take 16 = peer.octets := by
  constructor
  · intro same
    rw [← same, IPv6.octets_readAt whole]
  · intro same
    have here : message.drop 18 = peer.octets ++ (message.drop 18).drop 16 := by
      rw [← same, List.take_append_drop]
    exact IPv6.readAt_eq_of_drop here

/-- What is read of a relay-reply is what it asks for. -/
theorem decode_eq_ok_iff :
    decode message = .ok delivery ↔
      ∃ options, AsksFor message options delivery.peer delivery.payload ∧
        lastInterface options = delivery.interface := by
  by_cases whole : envelopeHeaderSize ≤ message.length
  · let area := message.drop envelopeHeaderSize
    let walk := Framing.dhcp6.walk area
    have read : decode message = ofOptions (IPv6.readAt message 18) walk := by
      rw [decode, Envelope.decode, if_neg (Nat.not_lt.2 whole)]
      rfl
    -- The area is whole options just if it is what is written for them.
    have written : ∀ options, (walk.truncation? = none ∧ walk.pairs = options) ↔
        AllFit options ∧ area = encodeOptions options :=
      fun options => Walk.contents_eq_iff.symm.trans contents_eq_iff_encodeOptions
    rw [read, ofOptions_eq_ok_iff]
    constructor
    · intro asked
      rcases asked with ⟨complete, last, interface, peer, reachable⟩
      rcases (written walk.pairs).1 ⟨complete, rfl⟩ with ⟨fit, laidOut⟩
      rw [peer] at reachable
      exact ⟨walk.pairs, ⟨whole, (readAt_eq_iff whole).1 peer, fit, laidOut, last, reachable⟩,
        interface⟩
    · intro asks
      rcases asks with ⟨options, asks, interface⟩
      rcases (written options).2 ⟨asks.fit, asks.laidOut⟩ with ⟨complete, samePairs⟩
      have peer := (readAt_eq_iff whole).2 asks.addressed
      rw [samePairs, peer]
      exact ⟨complete, asks.last, interface, rfl, asks.reachable⟩
  · constructor
    · intro read
      rw [decode, Envelope.decode, if_pos (Nat.not_le.1 whole)] at read
      cases read
    · intro asks
      rcases asks with ⟨_, asks, _⟩
      exact absurd asks.whole whole

/-- A relay-reply is read just if it asks for something. -/
theorem exists_decode_eq_ok_iff :
    (∃ delivery, decode message = .ok delivery) ↔
      ∃ options peer payload, AsksFor message options peer payload := by
  constructor
  · intro read
    rcases read with ⟨delivery, decoded⟩
    rcases decode_eq_ok_iff.1 decoded with ⟨options, asks, _⟩
    exact ⟨options, delivery.peer, delivery.payload, asks⟩
  · intro asks
    rcases asks with ⟨options, peer, payload, asks⟩
    exact ⟨⟨payload, lastInterface options, peer⟩, decode_eq_ok_iff.2 ⟨options, asks, rfl⟩⟩

/-- A layer that answers for a peer is delivered to it. -/
theorem decode_of_answers {message : Bytes} {layer : Layer} {peer : IPv6} {interface : UInt32}
    (read : Layer.read? message = some layer)
    (answers : layer.Answers peer [Bytes.ofWord32 interface]) (filled : layer.inner ≠ [])
    (numbered : interface ≠ 0) : decode message = .ok ⟨layer.inner, interface, peer⟩ := by
  rcases Layer.read?_eq_some_iff.1 read with
    ⟨envelope, pairs, decoded, held, _, samePeer, names, single⟩
  rcases Walk.contents_eq_iff.1 held with ⟨whole, listed⟩
  have usable : 1 ≤ layer.inner.length ∧ layer.inner.length ≤ relayMessageLimit :=
    ⟨List.length_pos_iff.2 filled, answers.short⟩
  have index : UInt32.ofNat (Bytes.number (Bytes.ofWord32 interface)) = interface := by
    rw [Bytes.number_ofWord32, UInt32.ofNat_toNat]
  have named : lastInterface pairs = interface := by
    rw [lastInterface, interfaceNames, names, answers.interfaces]
    exact index
  have payload : (deliverable pairs).getLast? = some layer.inner := by
    rw [deliverable, single]
    simp [usable]
  have samePairs : envelope.walk.pairs = pairs := listed
  rw [decode, decoded]
  exact ofOptions_eq_ok_iff.2 ⟨whole, samePairs ▸ payload, samePairs ▸ named,
    samePeer.trans answers.peer, fun _ => samePairs ▸ named ▸ numbered⟩

end Delivery

end DhcpRelay.Dhcp6
