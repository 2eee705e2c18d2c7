import DhcpRelay.Agent.Dhcp4
import DhcpRelay.Proofs.Dhcp4.RequestOptions

/-!
# The header of relayed messages

Handling the agent information leaves the header of a message alone.  What else a
request gets on its way is written over the hop count and the relay address; no other
byte changes.
-/

namespace DhcpRelay

namespace Bytes

variable {left right bytes part : Bytes} {count index position : Nat}

/-! ## Bytes that agree at the front -/

theorem byteAt_of_take_eq (same : left.take count = right.take count) (inside : index < count) :
    left.byteAt index = right.byteAt index := by
  have front : ∀ bytes : Bytes, bytes[index]? = (bytes.take count)[index]? :=
    fun bytes => (List.getElem?_take_of_lt inside).symm
  apply byteAt_of_getElem?_eq
  rw [front left, front right, same]

theorem length_le_of_take_eq (same : left.take count = right.take count) (fits : index ≤ count)
    (whole : index ≤ right.length) : index ≤ left.length := by
  have lengths := congrArg List.length same
  rw [List.length_take, List.length_take] at lengths
  omega

/-! ## Bytes written over others -/

theorem length_overwrite (fits : index + part.length ≤ bytes.length) :
    (bytes.overwrite index part).length = bytes.length := by
  simp only [overwrite, List.length_append, List.length_take, List.length_drop]
  omega

theorem getElem?_overwrite_of_lt (fits : index ≤ bytes.length) (before : position < index) :
    (bytes.overwrite index part)[position]? = bytes[position]? := by
  have inside : position < (bytes.take index).length := by
    rw [List.length_take_of_le fits]
    exact before
  rw [overwrite, List.append_assoc, List.getElem?_append_left inside,
    List.getElem?_take_of_lt before]

theorem getElem?_overwrite_of_le (fits : index ≤ bytes.length)
    (behind : index + part.length ≤ position) :
    (bytes.overwrite index part)[position]? = bytes[position]? := by
  have size : (bytes.take index ++ part).length = index + part.length := by
    rw [List.length_append, List.length_take_of_le fits]
  rw [overwrite, List.getElem?_append_right (size ▸ behind), size, List.getElem?_drop]
  congr 1
  omega

theorem drop_overwrite (fits : index ≤ bytes.length) :
    (bytes.overwrite index part).drop index = part ++ bytes.drop (index + part.length) := by
  rw [overwrite, List.append_assoc, List.drop_left' (List.length_take_of_le fits)]

end Bytes

theorem IPv4.readAt_of_take_eq {left right : Bytes} {count index : Nat}
    (same : left.take count = right.take count) (inside : index + 3 < count) :
    IPv4.readAt left index = IPv4.readAt right index := by
  have each : ∀ {offset}, offset < count → left.byteAt offset = right.byteAt offset :=
    Bytes.byteAt_of_take_eq same
  rw [IPv4.readAt, IPv4.readAt, each (by omega), each (by omega), each (by omega),
    each (by omega)]

theorem IPv4.readAt_eq_of_drop {bytes rest : Bytes} {index : Nat} {address : IPv4}
    (here : bytes.drop index = address.octets ++ rest) : IPv4.readAt bytes index = address := by
  have each : ∀ offset,
      bytes.byteAt (index + offset) = Bytes.byteAt (address.octets ++ rest) offset := by
    intro offset
    apply Bytes.byteAt_of_getElem?_eq
    rw [← here, List.getElem?_drop]
  rw [IPv4.readAt, each 1, each 2, each 3, show bytes.byteAt index = _ from each 0]
  rfl

namespace Dhcp4

variable {message : Bytes} {address : IPv4}

/-! ## Writing the hop count and the relay address -/

@[simp] theorem length_withHops (message : Bytes) (hops : UInt8) :
    (withHops message hops).length = message.length :=
  List.length_set

theorem getElem?_withHops {index : Nat} (other : index ≠ 3) (hops : UInt8) :
    (withHops message hops)[index]? = message[index]? :=
  List.getElem?_set_ne other.symm

theorem hops_withHops (whole : 3 < message.length) (hops : UInt8) :
    Dhcp4.hops (withHops message hops) = hops := by
  exact Bytes.byteAt_of_getElem?_eq_some (List.getElem?_set_self whole)

theorem relayAddress_withHops (message : Bytes) (hops : UInt8) :
    relayAddress (withHops message hops) = relayAddress message := by
  have each : ∀ index, index ≠ 3 →
      (withHops message hops).byteAt index = message.byteAt index := by
    intro index other
    exact Bytes.byteAt_of_getElem?_eq (getElem?_withHops other hops)
  simp [relayAddress, IPv4.readAt, each]

theorem length_withRelayAddress (whole : 28 ≤ message.length) (address : IPv4) :
    (withRelayAddress message address).length = message.length :=
  Bytes.length_overwrite whole

theorem getElem?_withRelayAddress {index : Nat} (whole : 28 ≤ message.length)
    (other : index < 24 ∨ 28 ≤ index) (address : IPv4) :
    (withRelayAddress message address)[index]? = message[index]? := by
  have fits : 24 ≤ message.length := by omega
  cases other with
  | inl before => exact Bytes.getElem?_overwrite_of_lt fits before
  | inr behind => exact Bytes.getElem?_overwrite_of_le fits behind

theorem relayAddress_withRelayAddress (whole : 28 ≤ message.length) (address : IPv4) :
    relayAddress (withRelayAddress message address) = address := by
  have fits : 24 ≤ message.length := by omega
  exact IPv4.readAt_eq_of_drop (Bytes.drop_overwrite fits)

theorem hops_withRelayAddress (whole : 28 ≤ message.length) (address : IPv4) :
    Dhcp4.hops (withRelayAddress message address) = Dhcp4.hops message := by
  apply Bytes.byteAt_of_getElem?_eq
  exact getElem?_withRelayAddress whole (.inl (by decide)) address

/-! ## Agent information -/

theorem take_padTo_append {front : Bytes} (size : front.length = optionsStart) (back : Bytes)
    (minimum : Nat) : (Bytes.padTo (front ++ back) minimum).take optionsStart = front := by
  rw [Bytes.padTo, List.append_assoc, List.take_left' size]

/-- Marking a request leaves its header alone. -/
theorem take_markRequest (message : Bytes) (policy : AgentPolicy) (circuit : UInt32)
    (identity : Option Identity) :
    (markRequest message policy circuit identity).message.take optionsStart =
      message.take optionsStart := by
  cases cookie : hasCookie message with
  | false => rw [markRequest_of_plain cookie]
  | true =>
      cases decided : decision policy (optionWalk message) with
      | some answer => rw [markRequest_of_decision cookie decided]
      | none =>
          have size : (message.take optionsStart).length = optionsStart :=
            List.length_take_of_le (length_of_hasCookie cookie)
          rw [message_of_decision_eq_none circuit identity cookie decided]
          split
          · rw [List.append_assoc, take_padTo_append size]
          · split
            · rfl
            · rw [List.append_assoc, take_padTo_append size]

/-- Taking agent information out of a reply leaves its header alone. -/
theorem take_unmarkReply (message : Bytes) (validation : Bool) (kind : IdentityKind)
    (links : Topology) :
    (unmarkReply message validation kind links).message.take optionsStart =
      message.take optionsStart := by
  unfold unmarkReply
  split
  · rfl
  · rename_i cookie
    rw [Bool.not_eq_true, Bool.not_eq_false'] at cookie
    have size : (message.take optionsStart).length = optionsStart :=
      List.length_take_of_le (length_of_hasCookie cookie)
    dsimp only
    split
    · rfl
    split
    · rfl
    split
    · rfl
    split
    · rfl
    · rw [withoutAgentInfo, List.append_assoc, List.append_assoc, take_padTo_append size]

end Dhcp4

end DhcpRelay
