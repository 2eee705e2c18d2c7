import DhcpRelay.Address.IPv4
import DhcpRelay.Proofs.Bytes

/-!
# Guarded access

The definitions that run read zero past the end of a message and slice as far as there
are bytes.  Guarded access fails there instead, and so does guarded arithmetic where a
number would fall below zero or a byte would count past its last value.  A computation
that gives the same result with guards keeps within all bounds.
-/

namespace DhcpRelay.Guarded

/-- What a guard refuses. -/
inductive Fault where
  | index (position length : Nat)
  | range (start stop length : Nat)
  /-- Bytes are copied to a place of another size. -/
  | copy (room size : Nat)
  | subtraction (left right : Nat)
  | overflow (byte : UInt8)
  | underflow (byte : UInt8)
  | assertion
  deriving DecidableEq, Repr

/-- A computation with guards. -/
abbrev Guard := Except Fault

variable {Input Output : Type} {bytes part : Bytes} {position start stop left right : Nat}

@[simp] theorem ok_bind (value : Input) (next : Input → Guard Output) :
    ((.ok value : Guard Input) >>= next) = next value := rfl

@[simp] theorem pure_eq (value : Output) : (pure value : Guard Output) = .ok value := rfl

/-- Go on with what a step gives, unless it gives a reason to stop. -/
def proceed {Reason : Type} (step : Guard (Except Reason Input))
    (next : Input → Guard (Except Reason Output)) : Guard (Except Reason Output) := do
  match ← step with
  | .error reason => return .error reason
  | .ok value => next value

theorem proceed_eq {Reason : Type} {step : Except Reason Input}
    {next : Input → Guard (Except Reason Output)} {rest : Input → Except Reason Output}
    (each : ∀ value, step = .ok value → next value = .ok (rest value)) :
    proceed (.ok step) next = .ok (step >>= rest) := by
  cases step with
  | error reason => rfl
  | ok value => exact each value rfl

/-! ## Reading -/

/-- The byte at `position`. -/
def byte (bytes : Bytes) (position : Nat) : Guard UInt8 :=
  match bytes[position]? with
  | some byte => .ok byte
  | none => .error (.index position bytes.length)

/-- The bytes from `start` up to, not including, `stop`. -/
def slice (bytes : Bytes) (start stop : Nat) : Guard Bytes :=
  if bytes.InRange start stop then .ok (bytes.slice start stop)
  else .error (.range start stop bytes.length)

/-- The bytes from `start` on. -/
def behind (bytes : Bytes) (start : Nat) : Guard Bytes :=
  slice bytes start bytes.length

/-- The sixteen-bit word at `position`. -/
def word16 (bytes : Bytes) (position : Nat) : Guard UInt16 :=
  return Bytes.word16 (← byte bytes position) (← byte bytes (position + 1))

/-- The IPv4 address at `position`. -/
def address4 (bytes : Bytes) (position : Nat) : Guard IPv4 := do
  let octets ← slice bytes position (position + 4)
  return ⟨← byte octets 0, ← byte octets 1, ← byte octets 2, ← byte octets 3⟩

theorem byte_eq (inside : position < bytes.length) :
    byte bytes position = .ok (bytes.byteAt position) := by
  have found := List.getElem?_eq_getElem inside
  rw [byte, Bytes.byteAt_of_getElem?_eq_some found, found]

theorem slice_eq (ordered : start ≤ stop) (within : stop ≤ bytes.length) :
    slice bytes start stop = .ok (bytes.slice start stop) :=
  if_pos ⟨ordered, within⟩

theorem behind_eq (within : start ≤ bytes.length) :
    behind bytes start = .ok (bytes.drop start) := by
  have all : (bytes.drop start).length ≤ bytes.length - start :=
    Nat.le_of_eq List.length_drop
  rw [behind, slice_eq within (Nat.le_refl _), Bytes.slice, List.take_of_length_le all]

theorem word16_eq (inside : position + 1 < bytes.length) :
    word16 bytes position = .ok (bytes.word16At position) := by
  rw [word16, byte_eq (Nat.lt_of_succ_lt inside), ok_bind, byte_eq inside]
  rfl

theorem byteAt_slice {offset : Nat} (inside : start + offset < stop) :
    (bytes.slice start stop).byteAt offset = bytes.byteAt (start + offset) := by
  have before : offset < stop - start := by omega
  apply Bytes.byteAt_of_getElem?_eq
  rw [Bytes.slice, List.getElem?_take_of_lt before, List.getElem?_drop]

theorem address4_eq (inside : position + 4 ≤ bytes.length) :
    address4 bytes position = .ok (IPv4.readAt bytes position) := by
  have ordered : position ≤ position + 4 := Nat.le_add_right position 4
  have size := Bytes.length_slice_of_inRange ⟨ordered, inside⟩
  have each : ∀ offset, offset < 4 → byte (bytes.slice position (position + 4)) offset =
      .ok (bytes.byteAt (position + offset)) := by
    intro offset small
    rw [byte_eq (by omega), byteAt_slice (by omega)]
  rw [address4, slice_eq ordered inside, ok_bind, each 0 (by decide), each 1 (by decide),
    each 2 (by decide), each 3 (by decide)]
  rfl

/-! ## Writing -/

/-- The bytes with another one at `position`. -/
def write (bytes : Bytes) (position : Nat) (byte : UInt8) : Guard Bytes :=
  if position < bytes.length then .ok (bytes.set position byte)
  else .error (.index position bytes.length)

/-- The bytes with `part` copied to the place from `start` up to `stop`. -/
def copy (bytes : Bytes) (start stop : Nat) (part : Bytes) : Guard Bytes :=
  if bytes.InRange start stop then
    if part.length = stop - start then .ok (bytes.overwrite start part)
    else .error (.copy (stop - start) part.length)
  else .error (.range start stop bytes.length)

theorem write_eq (inside : position < bytes.length) (byte : UInt8) :
    write bytes position byte = .ok (bytes.set position byte) :=
  if_pos inside

theorem copy_eq (within : stop ≤ bytes.length) (fits : start + part.length = stop) :
    copy bytes start stop part = .ok (bytes.overwrite start part) := by
  have bounds : bytes.InRange start stop := ⟨by omega, within⟩
  have size : part.length = stop - start := by omega
  rw [copy, if_pos bounds, if_pos size]

/-- Bytes are copied to the end. -/
theorem copy_end (fits : start + part.length = bytes.length) :
    copy bytes start bytes.length part = .ok (bytes.take start ++ part) := by
  rw [copy_eq (Nat.le_refl _) fits, Bytes.overwrite, fits, List.drop_length, List.append_nil]

/-- Bytes are copied to the place behind those that were copied before. -/
theorem copy_append {front back : Bytes} (here : front.length = start)
    (ends : start + part.length = stop) (room : part.length ≤ back.length) :
    copy (front ++ back) start stop part = .ok (front ++ part ++ back.drop part.length) := by
  have within : stop ≤ (front ++ back).length := by
    rw [List.length_append]
    omega
  subst here
  rw [copy_eq within ends, Bytes.overwrite, List.take_left, ← List.drop_drop, List.drop_left]

/-! ## Counting -/

/-- What is left of `left` without `right`. -/
def subtract (left right : Nat) : Guard Nat :=
  if right ≤ left then .ok (left - right) else .error (.subtraction left right)

/-- The next value of a byte. -/
def increment (byte : UInt8) : Guard UInt8 :=
  if byte = 255 then .error (.overflow byte) else .ok (byte + 1)

/-- The value of a byte before. -/
def decrement (byte : UInt8) : Guard UInt8 :=
  if byte = 0 then .error (.underflow byte) else .ok (byte - 1)

/-- Insist on a condition. -/
def require (condition : Bool) : Guard Unit :=
  if condition then .ok () else .error .assertion

theorem subtract_eq (enough : right ≤ left) : subtract left right = .ok (left - right) :=
  if_pos enough

theorem increment_eq {byte bound : UInt8} (below : byte ≤ bound) (small : bound < 255) :
    increment byte = .ok (byte + 1) := by
  refine if_neg fun last => ?_
  rw [last] at below
  exact absurd (UInt8.lt_of_le_of_lt below small) (by decide)

theorem decrement_eq {byte : UInt8} (positive : byte ≠ 0) : decrement byte = .ok (byte - 1) :=
  if_neg positive

end DhcpRelay.Guarded
