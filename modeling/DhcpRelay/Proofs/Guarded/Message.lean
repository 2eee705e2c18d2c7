import DhcpRelay.Proofs.Dhcp4.AgentOptions
import DhcpRelay.Proofs.Guarded.Walk

/-!
# DHCPv4 messages with guards

The length of the header is checked once, when a message comes in.  The fields that
carry options are within the header, and the option area is only looked at behind a
cookie.
-/

namespace DhcpRelay.Guarded

open Dhcp4

/-- The client's hardware address. -/
def hardwareAddress (message : Bytes) : Guard Bytes := do
  let size := min (← byte message 2).toNat 16
  slice message 28 (28 + size)

/-- The client wants the reply broadcast. -/
def wantsBroadcast (message : Bytes) : Guard Bool := do
  return 32768 ≤ (← word16 message 10).toNat

/-- The option area; plain BOOTP has none. -/
def optionArea (message : Bytes) : Guard Bytes :=
  if hasCookie message then behind message optionsStart else .ok []

/-- The value of the first option `code` of an area. -/
def optionIn? (area : Bytes) (code : UInt16) : Guard (Option Bytes) := do
  let walk ← walk4 area 0 0
  return (walk.find? code).map (·.value)

/-- The value of the first option `code` of a header field, if the field is used for
options. -/
def optionInField? (used : Bool) (message : Bytes) (start stop : Nat) (code : UInt16) :
    Guard (Option Bytes) := do
  if used then optionIn? (← slice message start stop) code else .ok none

/-- Look for the first option of code `code` in an area. -/
def search (area : Bytes) (code : UInt16) : Guard (Except OptionFault Search) := do
  let walk ← walk4 area 0 0
  return Search.throughOptions code .none walk.ending walk.options

/-- The value of an option, looked for in the header fields that carry options, too. -/
def option? (message : Bytes) (code : UInt16) : Guard (Option Bytes) := do
  match ← search (← optionArea message) code with
  | .error _ => return none
  | .ok ⟨some option, _⟩ => return some option.value
  | .ok ⟨none, overload⟩ =>
      match ← optionInField? overload.usesFile message 108 236 code with
      | some value => return some value
      | none => optionInField? overload.usesSname message 44 108 code

/-- The value of the message type option. -/
def typeOf (message : Bytes) : Guard (Option UInt8) := do
  return (← option? message messageTypeCode).bind (·.head?)

variable {message : Bytes}

theorem hardwareAddress_eq (whole : headerSize ≤ message.length) :
    hardwareAddress message = .ok (Dhcp4.hardwareAddress message) := by
  have size : 236 ≤ message.length := whole
  have capped : min (message.byteAt 2).toNat 16 ≤ 16 := Nat.min_le_right _ 16
  rw [hardwareAddress, byte_eq (by omega), ok_bind, slice_eq (Nat.le_add_right _ _) (by omega)]
  rfl

theorem wantsBroadcast_eq (whole : headerSize ≤ message.length) :
    wantsBroadcast message = .ok (Dhcp4.wantsBroadcast message) := by
  have size : 236 ≤ message.length := whole
  rw [wantsBroadcast, word16_eq (by omega)]
  rfl

theorem optionArea_eq (message : Bytes) : optionArea message = .ok (Dhcp4.optionArea message) := by
  rw [optionArea, Dhcp4.optionArea]
  by_cases cookie : hasCookie message = true
  · rw [if_pos cookie, if_pos cookie, behind_eq (length_of_hasCookie cookie)]
  · rw [if_neg cookie, if_neg cookie]

theorem optionIn?_eq (area : Bytes) (code : UInt16) :
    optionIn? area code = .ok (Dhcp4.optionIn? area code) := by
  rw [optionIn?, walk4_eq]
  rfl

theorem optionInField?_eq (used : Bool) {start stop : Nat} (bounds : message.InRange start stop)
    (code : UInt16) : optionInField? used message start stop code =
      .ok (if used then Dhcp4.optionIn? (message.slice start stop) code else none) := by
  cases used with
  | false => rfl
  | true =>
      rw [optionInField?, if_pos rfl, slice_eq bounds.1 bounds.2, ok_bind, optionIn?_eq, if_pos rfl]

theorem search_eq (area : Bytes) (code : UInt16) :
    search area code = .ok (DhcpRelay.search area code) := by
  rw [search, walk4_eq]
  rfl

theorem option?_eq (whole : headerSize ≤ message.length) (code : UInt16) :
    option? message code = .ok (Dhcp4.option? message code) := by
  have size : 236 ≤ message.length := whole
  have file : message.InRange 108 236 := ⟨by omega, size⟩
  have sname : message.InRange 44 108 := ⟨by omega, by omega⟩
  rw [option?, optionArea_eq, ok_bind, search_eq, ok_bind, Dhcp4.option?]
  generalize DhcpRelay.search (Dhcp4.optionArea message) code = result
  cases result with
  | error cause => rfl
  | ok searched =>
      rcases searched with ⟨found, overload⟩
      cases found with
      | some option => rfl
      | none =>
          dsimp only
          rw [optionInField?_eq _ file, ok_bind, optionInField?_eq _ sname]
          rw [bootFile, serverName]
          cases overload.usesFile with
          | false => rfl
          | true => cases Dhcp4.optionIn? (message.slice 108 236) code <;> rfl

theorem typeOf_eq (whole : headerSize ≤ message.length) :
    typeOf message = .ok (Dhcp4.typeOf message) := by
  rw [typeOf, option?_eq whole]
  rfl

end DhcpRelay.Guarded
