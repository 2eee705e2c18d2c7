import DhcpRelay.Proofs.Dhcp6.Envelope

/-!
# Layers of nested envelopes

A layer is what an envelope says that has one message inside: its kind, its peer, the
interfaces it names and the message.
-/

namespace DhcpRelay.Dhcp6

/-- The values of the options with a code. -/
def valuesOf (code : UInt16) (pairs : List (UInt16 × Bytes)) : List Bytes :=
  pairs.filterMap fun pair => if pair.1 = code then some pair.2 else none

/-- What an envelope with one message inside says.  An interface is named by bytes. -/
structure Layer where
  type : UInt8
  peer : IPv6
  interfaces : List Bytes
  inner : Bytes
  deriving DecidableEq, Repr

namespace Layer

/-- Read an envelope whose options are whole and hold one message. -/
def read? (message : Bytes) : Option Layer :=
  match Envelope.decode message with
  | .error _ => none
  | .ok ⟨header, area⟩ =>
      match Framing.dhcp6.contents area with
      | ⟨_, true⟩ => none
      | ⟨pairs, false⟩ =>
          match valuesOf relayMessageCode pairs with
          | [inner] => some ⟨header.type, header.peer, valuesOf interfaceIdCode pairs, inner⟩
          | _ => none

theorem read?_eq_some_iff {message : Bytes} {layer : Layer} :
    read? message = some layer ↔
      ∃ envelope pairs,
        Envelope.decode message = .ok envelope ∧
        Framing.dhcp6.contents envelope.optionArea = ⟨pairs, false⟩ ∧
        envelope.header.type = layer.type ∧
        envelope.header.peer = layer.peer ∧
        valuesOf interfaceIdCode pairs = layer.interfaces ∧
        valuesOf relayMessageCode pairs = [layer.inner] := by
  constructor
  · intro read
    rw [read?] at read
    split at read
    · cases read
    · rename_i header area decoded
      split at read
      · cases read
      · rename_i pairs held
        split at read
        · rename_i inner single
          cases read
          exact ⟨_, pairs, decoded, held, rfl, rfl, rfl, single⟩
        · cases read
  · intro written
    rcases written with ⟨envelope, pairs, decoded, held, type, peer, interfaces, inner⟩
    simp [read?, decoded, held, type, peer, interfaces, inner]

/-- The kind of a message that was read as a layer. -/
theorem typeOf_of_read? {message : Bytes} {layer : Layer} (read : read? message = some layer)
    {type : MessageType} (coded : layer.type = type.code) : typeOf message = .ok type := by
  rcases read?_eq_some_iff.1 read with ⟨envelope, _, decoded, _, kind, _⟩
  exact Envelope.typeOf_of_decode decoded (kind.trans coded)

theorem head?_of_read? {message : Bytes} {layer : Layer} (read : read? message = some layer) :
    message.head? = some layer.type := by
  rcases read?_eq_some_iff.1 read with ⟨envelope, _, decoded, _, kind, _⟩
  rw [Envelope.decode] at decoded
  split at decoded
  · cases decoded
  · rename_i whole
    cases decoded
    cases message with
    | nil => exact absurd (by decide) whole
    | cons first rest => exact congrArg some kind

/-- The layer answers for a peer behind an interface with a message that can be delivered. -/
structure Answers (layer : Layer) (peer : IPv6) (interfaces : List Bytes) : Prop where
  isReply : layer.type = MessageType.relayReply.code
  peer : layer.peer = peer
  interfaces : layer.interfaces = interfaces
  short : layer.inner.length ≤ relayMessageLimit

end Layer

end DhcpRelay.Dhcp6
