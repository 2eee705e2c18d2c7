import DhcpRelay.Dhcp6.ClientAddress
import DhcpRelay.Proofs.Dhcp6.Envelope
import DhcpRelay.Proofs.Guarded.Datagram
import DhcpRelay.Proofs.Guarded.Walk

/-!
# DHCPv6 messages with guards

An envelope is opened only if its header is complete.  What is copied to a place of fixed
size was measured before, and a relayed message that is delivered is not empty.
-/

namespace DhcpRelay

theorem Bytes.number_replicate_append (count : Nat) (bytes : Bytes) :
    number (List.replicate count 0 ++ bytes) = number bytes := by
  induction count with
  | zero => rfl
  | succ count ih => exact ih

namespace Guarded

open Dhcp6

/-- The IPv6 address at `position`, copied to a place of sixteen bytes. -/
def address6 (bytes : Bytes) (position : Nat) : Guard IPv6 := do
  let octets ← slice bytes position (position + 16)
  match IPv6.ofOctets? octets with
  | some address => return address
  | none => .error (.copy 16 octets.length)

/-- The kind of a message. -/
def typeOf6 (message : Bytes) : Guard (Except MessageFault MessageType) := do
  if message.length < minimumSize then
    return .error (.malformedHeader .dhcp6)
  else
    let word ← slice message 0 4
    match MessageType.ofCode? (← byte word 0) with
    | some type => return .ok type
    | none => return .error (.malformedHeader .dhcp6MessageType)

theorem address6_eq {bytes : Bytes} {position : Nat} (within : position + 16 ≤ bytes.length) :
    address6 bytes position = .ok (IPv6.readAt bytes position) := by
  have octets : bytes.slice position (position + 16) = (IPv6.readAt bytes position).octets := by
    rw [IPv6.octets_readAt within, Bytes.slice, Nat.add_sub_cancel_left]
  have read : IPv6.ofOctets? (bytes.slice position (position + 16)) =
      some (IPv6.readAt bytes position) := by
    rw [octets]
    exact dif_pos (IPv6.readAt bytes position).length_octets
  rw [address6, slice_eq (Nat.le_add_right _ _) within, ok_bind, read]
  rfl

theorem typeOf6_eq (message : Bytes) : typeOf6 message = .ok (Dhcp6.typeOf message) := by
  rw [typeOf6, Dhcp6.typeOf]
  by_cases short : message.length < minimumSize
  · rw [if_pos short, if_pos short]
    rfl
  · have size : 4 ≤ message.length := Nat.not_lt.1 short
    have word : (message.slice 0 4).length = 4 :=
      Bytes.length_slice_add (show 0 + 4 ≤ message.length from size)
    rw [if_neg short, if_neg short, slice_eq (by decide) size, ok_bind, byte_eq (by omega),
      ok_bind, byteAt_slice (by decide)]
    cases MessageType.ofCode? (message.byteAt 0) <;> rfl

/-! ## The address of the client -/

/-- The Ethernet address in an identifier. -/
def identifierMac? (identifier : Bytes) : Guard (Option Mac) := do
  if identifier.length < 4 then
    return none
  else
    let kind ← word16 identifier 0
    if (← word16 identifier 2) ≠ ethernet then
      return none
    else if kind = linkLayerTimeIdentifier then
      return Mac.ofOctets? (identifier.drop 8)
    else if kind = linkLayerIdentifier then
      return Mac.ofOctets? (← behind identifier 4)
    else
      return none

/-- The first client identifier of a message. -/
def clientIdentifier (message : Bytes) : Guard (Option Bytes) := do
  if message.length < minimumSize then
    return none
  else
    let walk ← walk6 (← behind message minimumSize) 0
    return (walk.find? clientIdCode).map (·.value)

/-- The Ethernet address in a modified EUI-64 interface identifier. -/
def eui64Mac? (address : IPv6) : Guard (Option Mac) := do
  if (← byte address.octets 11) = 255 ∧ (← byte address.octets 12) = 254 then
    return Mac.ofOctets? [(← byte address.octets 8) ^^^ 2, ← byte address.octets 9,
      ← byte address.octets 10, ← byte address.octets 13, ← byte address.octets 14,
      ← byte address.octets 15]
  else
    return none

/-- The Ethernet address of the client that sent a message from `source`. -/
def hardwareAddressOf (source : IPv6) (message : Bytes) : Guard (Option Mac) := do
  let identified ←
    match ← clientIdentifier message with
    | none => .ok none
    | some identifier => identifierMac? identifier
  match identified with
  | some mac => return some mac
  | none => if source.isLinkLocal then eui64Mac? source else return none

theorem identifierMac?_eq (identifier : Bytes) :
    identifierMac? identifier = .ok (Dhcp6.identifierMac? identifier) := by
  rw [identifierMac?, Dhcp6.identifierMac?]
  by_cases short : identifier.length < 4
  · rw [if_pos short, if_pos (.inl short)]
    rfl
  · rw [if_neg short, word16_eq (by omega), ok_bind, word16_eq (by omega), ok_bind,
      behind_eq (by omega), ok_bind]
    simp only [short, false_or]
    split
    · rfl
    split
    · rfl
    split <;> rfl

theorem clientIdentifier_eq (message : Bytes) :
    clientIdentifier message = .ok (Dhcp6.clientIdentifier message) := by
  rw [clientIdentifier, Dhcp6.clientIdentifier]
  by_cases short : message.length < minimumSize
  · rw [if_pos short, if_pos short]
    rfl
  · rw [if_neg short, if_neg short, behind_eq (Nat.not_lt.1 short), ok_bind, walk6_drop_eq]
    rfl

theorem eui64Mac?_eq (address : IPv6) : eui64Mac? address = .ok (Dhcp6.eui64Mac? address) := by
  have each : ∀ index, index < 16 → byte address.octets index = .ok (address.octet index) :=
    fun index small => byte_eq (address.length_octets.symm ▸ small)
  simp only [eui64Mac?, Dhcp6.eui64Mac?, each, Nat.reduceLT, ok_bind, pure_eq]
  split <;> rfl

theorem hardwareAddressOf_eq (source : IPv6) (message : Bytes) :
    hardwareAddressOf source message = .ok (Dhcp6.hardwareAddressOf source message) := by
  rw [hardwareAddressOf, Dhcp6.hardwareAddressOf, clientIdentifier_eq, ok_bind, eui64Mac?_eq]
  cases Dhcp6.clientIdentifier message with
  | none =>
      change (if source.isLinkLocal = true then _ else _) =
        Except.ok (if source.isLinkLocal = true then _ else _)
      split <;> rfl
  | some identifier =>
      dsimp only [Option.bind_some]
      rw [identifierMac?_eq, ok_bind]
      cases Dhcp6.identifierMac? identifier with
      | some mac => rfl
      | none =>
          change (if source.isLinkLocal = true then _ else _) =
            Except.ok (if source.isLinkLocal = true then _ else _)
          split <;> rfl

/-- The value of the option that holds the client's address. -/
def linkLayerValue (mac : Mac) : Guard Bytes := do
  let value ← copy (List.replicate 8 0) 0 2 (Bytes.ofWord16 ethernet)
  copy value 2 8 mac.octets

/-! ## Deliveries -/

/-- The interface that an option names, copied to the end of four bytes. -/
def namedInterface (option : Tlv) : Guard (Option UInt32) := do
  if option.code = interfaceIdCode ∧ option.value.length ≤ 4 then
    let start ← subtract 4 option.value.length
    let bytes ← copy (List.replicate 4 0) start 4 option.value
    return some (UInt32.ofNat (Bytes.number bytes))
  else
    return none

/-- Read a relay-reply.  The port hangs on the first byte of what is delivered. -/
def decodeDelivery (message : Bytes) :
    Guard (Except DeliveryFault (Delivery × UInt16)) := do
  if message.length < envelopeHeaderSize then
    return .error (.malformed (.malformedHeader .dhcp6Relay))
  else
    let peer ← address6 message 18
    let walk ← walk6 (← behind message envelopeHeaderSize) 0
    let interfaces ← walk.options.mapM namedInterface
    match walk.truncation? with
    | some offset => return .error (.malformed (.truncatedOption offset))
    | none =>
        match (walk.options.filterMap Delivery.usableMessage).getLast? with
        | none => return .error .missingRelayMessage
        | some payload =>
            let interface := (interfaces.filterMap id).getLast?.getD 0
            if peer.isLinkLocal && interface == 0 then
              return .error .ambiguousClientInterface
            else
              let port :=
                if (← byte payload 0) = MessageType.relayReply.code then serverPort
                else clientPort
              return .ok (⟨payload, interface, peer⟩, port)

theorem linkLayerValue_eq (mac : Mac) :
    linkLayerValue mac = .ok (Bytes.ofWord16 ethernet ++ mac.octets) := by
  have size := mac.length_octets
  have type : copy (List.replicate 8 0) 0 2 (Bytes.ofWord16 ethernet) =
      .ok (Bytes.ofWord16 ethernet ++ List.replicate 6 0) := rfl
  have address : copy (Bytes.ofWord16 ethernet ++ List.replicate 6 0) 2 8 mac.octets =
      .ok (Bytes.ofWord16 ethernet ++ mac.octets) :=
    copy_end (show 2 + mac.octets.length = 8 by omega)
  rw [linkLayerValue, type, ok_bind, address]

theorem namedInterface_eq (option : Tlv) :
    namedInterface option = .ok (Delivery.namedInterface option) := by
  rw [namedInterface, Delivery.namedInterface]
  by_cases named : option.code = interfaceIdCode ∧ option.value.length ≤ 4
  · have fits : 4 - option.value.length + option.value.length = 4 := Nat.sub_add_cancel named.2
    have copied : copy (List.replicate 4 0) (4 - option.value.length) 4 option.value =
        .ok ((List.replicate 4 0).take (4 - option.value.length) ++ option.value) :=
      copy_end fits
    rw [if_pos named, if_pos named, subtract_eq named.2, ok_bind, copied, ok_bind,
      List.take_replicate, Bytes.number_replicate_append]
    rfl
  · rw [if_neg named, if_neg named]
    rfl

/-- What is delivered is not empty. -/
theorem exists_cons_of_usableMessage {option : Tlv} {payload : Bytes}
    (usable : Delivery.usableMessage option = some payload) :
    ∃ first rest, payload = first :: rest := by
  rw [Delivery.usableMessage] at usable
  split at usable
  · rename_i limits
    cases usable
    exact List.exists_cons_of_length_pos limits.2.1
  · cases usable

theorem port_cons (first : UInt8) (rest : Bytes) (interface : UInt32) (peer : IPv6) :
    (⟨first :: rest, interface, peer⟩ : Delivery).port =
      if first = MessageType.relayReply.code then serverPort else clientPort := by
  simp [Delivery.port, Delivery.toRelay]

theorem decodeDelivery_eq (message : Bytes) :
    decodeDelivery message =
      .ok ((Delivery.decode message).map fun delivery => (delivery, delivery.port)) := by
  rw [decodeDelivery, Delivery.decode, Envelope.decode]
  by_cases short : message.length < envelopeHeaderSize
  · rw [if_pos short, if_pos short]
    rfl
  · have size : 34 ≤ message.length := Nat.not_lt.1 short
    have walked : walk6 (message.drop envelopeHeaderSize) 0 =
        .ok (Framing.dhcp6.walk (message.drop envelopeHeaderSize)) := walk6_drop_eq _ 0
    have named : namedInterface = fun option => pure (Delivery.namedInterface option) :=
      funext namedInterface_eq
    rw [if_neg short, if_neg short, address6_eq (by omega), ok_bind,
      behind_eq (Nat.not_lt.1 short), ok_bind, walked, ok_bind, named, List.mapM_pure, pure_eq,
      ok_bind]
    change _ = Except.ok (Except.map _ (Delivery.ofOptions _
      (Framing.dhcp6.walk (message.drop envelopeHeaderSize))))
    rw [Delivery.ofOptions]
    generalize Framing.dhcp6.walk (message.drop envelopeHeaderSize) = walk
    cases walk.truncation? with
    | some offset => rfl
    | none =>
        dsimp only
        cases last : (walk.options.filterMap Delivery.usableMessage).getLast? with
        | none => rfl
        | some payload =>
            rcases List.mem_filterMap.1 (List.mem_of_getLast? last) with ⟨option, _, usable⟩
            rcases exists_cons_of_usableMessage usable with ⟨first, rest, rfl⟩
            have interface : (walk.options.map Delivery.namedInterface).filterMap id =
                walk.options.filterMap Delivery.namedInterface := List.filterMap_map
            dsimp only
            rw [interface]
            split
            · rfl
            · exact congrArg (fun port => Except.ok (Except.ok (_, port))) (port_cons ..).symm

end Guarded

end DhcpRelay
