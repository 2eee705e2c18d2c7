import DhcpRelay.Proofs.Net.Buffer

/-!
# Datagrams damaged on their way

A byte counts in the sum of the words by the half of the word it stands in.  A byte that is
replaced changes the sum by less than all ones, and by something, so no sum that was full
is full afterwards: not even end-around carry hides the change.
-/

namespace DhcpRelay

namespace Bytes

/-- The bytes with one bit of the byte at `index` turned over. -/
def flipBit (bytes : Bytes) (index : Nat) (bit : Fin 8) : Bytes :=
  bytes.set index (bytes.byteAt index ^^^ UInt8.ofNat (1 <<< bit.val))

theorem byteAt_cons_succ (first : UInt8) (rest : Bytes) (index : Nat) :
    byteAt (first :: rest) (index + 1) = rest.byteAt index := rfl

theorem byteAt_append_right {front : Bytes} {size : Nat} (sized : front.length = size)
    (back : Bytes) (index : Nat) : (front ++ back).byteAt (size + index) = back.byteAt index := by
  subst sized
  apply byteAt_of_getElem?_eq
  rw [List.getElem?_append_right (Nat.le_add_right _ _), Nat.add_sub_cancel_left]

theorem set_append_right {front : Bytes} {size : Nat} (sized : front.length = size)
    (back : Bytes) (index : Nat) (byte : UInt8) :
    (front ++ back).set (size + index) byte = front ++ back.set index byte := by
  subst sized
  rw [List.set_append_right _ _ (Nat.le_add_right _ _), Nat.add_sub_cancel_left]

/-- Turning a bit over makes another byte. -/
theorem xor_bit_ne (byte : UInt8) (bit : Fin 8) : byte ^^^ UInt8.ofNat (1 <<< bit.val) ≠ byte := by
  have mask : UInt8.ofNat (1 <<< bit.val) ≠ 0 := by
    revert bit
    decide
  intro same
  rw [← UInt8.xor_zero (a := byte), UInt8.xor_assoc, UInt8.zero_xor, UInt8.xor_right_inj] at same
  exact mask same

end Bytes

/-! ## The sum -/

namespace Checksum

/-- What one bit of the lowest value adds to the sum in the byte at an index. -/
def weight (index : Nat) : Nat :=
  if index % 2 = 0 then 256 else 1

theorem weight_add_two (index : Nat) : weight (index + 2) = weight index := by
  rw [weight, weight, Nat.add_mod_right]

/-- A byte that is replaced takes its weight out of the sum, and the new one brings its own. -/
theorem wordSum_set {bytes : Bytes} {index : Nat} (within : index < bytes.length)
    (byte : UInt8) :
    wordSum (bytes.set index byte) + weight index * (bytes.byteAt index).toNat =
      wordSum bytes + weight index * byte.toNat := by
  fun_induction wordSum bytes generalizing index with
  | case1 => exact absurd within (Nat.not_lt_zero _)
  | case2 last =>
      have first : index = 0 := Nat.lt_one_iff.1 within
      subst first
      change byte.toNat * 256 + 256 * last.toNat = last.toNat * 256 + 256 * byte.toNat
      omega
  | case3 high low rest ih =>
      -- The byte is one of the first word, or one of the words behind it.
      rcases index with _ | _ | index
      case zero =>
        change byte.toNat * 256 + low.toNat + wordSum rest + 256 * high.toNat =
          high.toNat * 256 + low.toNat + wordSum rest + 256 * byte.toNat
        omega
      case succ.zero =>
        change high.toNat * 256 + byte.toNat + wordSum rest + 1 * low.toNat =
          high.toNat * 256 + low.toNat + wordSum rest + 1 * byte.toNat
        omega
      case succ.succ =>
        have behind : index < rest.length := by
          rw [List.length_cons, List.length_cons] at within
          omega
        have inRest := ih behind
        rw [List.set_cons_succ, List.set_cons_succ, Bytes.byteAt_cons_succ,
          Bytes.byteAt_cons_succ, weight_add_two, wordSum]
        omega

/-- Another byte in one place moves the sum by less than all ones, so a full sum is not full
any more. -/
theorem not_isFull_wordSum_set {bytes : Bytes} {index : Nat} {byte : UInt8}
    (full : IsFull (wordSum bytes)) (within : index < bytes.length)
    (other : byte ≠ bytes.byteAt index) : ¬ IsFull (wordSum (bytes.set index byte)) := by
  intro still
  have moved := wordSum_set within byte
  have differ : byte.toNat ≠ (bytes.byteAt index).toNat := fun same =>
    other (UInt8.toNat_inj.1 same)
  have oldBound := (bytes.byteAt index).toNat_lt
  have newBound := byte.toNat_lt
  rw [IsFull] at full still
  rw [weight] at moved
  -- The sums differ by at most 255 · 256, and no multiple of 65535 but zero is as small.
  split at moved <;> omega

theorem isValid_set {bytes : Bytes} {index : Nat} {byte : UInt8} (short : IsShort bytes)
    (valid : isValid bytes = true) (within : index < bytes.length)
    (other : byte ≠ bytes.byteAt index) : isValid (bytes.set index byte) = false := by
  have sameLength : IsShort (bytes.set index byte) := by
    rw [IsShort, List.length_set]
    exact short
  have full := (isValid_iff short).1 valid
  rw [Bool.eq_false_iff]
  intro still
  exact not_isFull_wordSum_set full within other ((isValid_iff sameLength).1 still)

end Checksum

/-! ## The datagram -/

namespace Datagram

variable {payload : Bytes} {position : Nat} {byte : UInt8}

/-- A byte of the payload stands in the datagram behind both headers. -/
theorem framed_set (header : DatagramHeader) (checksum : UInt16) (payload : Bytes)
    (position : Nat) (byte : UInt8) :
    (framed header checksum payload).set (ipv4HeaderSize + udpHeaderSize + position) byte =
      framed header checksum (payload.set position byte) := by
  rw [framed, framed, List.length_set, Bytes.set_append_right]
  rfl

/-- The checksum covers it behind the pseudo header and the UDP header. -/
theorem covered_set (header : DatagramHeader) (checksum : UInt16) (payload : Bytes)
    (position : Nat) (byte : UInt8) :
    covered header (payload.set position byte) checksum =
      (covered header payload checksum).set (20 + position) byte := by
  rw [covered, covered, List.length_set, Bytes.set_append_right]
  rfl

theorem byteAt_covered (header : DatagramHeader) (checksum : UInt16) (payload : Bytes)
    (position : Nat) :
    (covered header payload checksum).byteAt (20 + position) = payload.byteAt position := by
  rw [covered, Bytes.byteAt_append_right]
  rfl

/-- Another byte anywhere in the payload makes the checksum wrong.  What was written in its
field is not the zero that would say there is none. -/
theorem hasValidChecksums_set (fits : Fits payload) (header : DatagramHeader)
    (within : position < payload.length) (other : byte ≠ payload.byteAt position) :
    hasValidChecksums ((bytes header payload).set (ipv4HeaderSize + udpHeaderSize + position)
      byte) = false := by
  have sameLength : Fits (payload.set position byte) := by
    rw [Fits, List.length_set]
    exact fits
  have present : (udpChecksum header payload == 0) = false :=
    beq_eq_false_iff_ne.2 (udpChecksum_ne_zero header payload)
  have inside : 20 + position < (covered header payload (udpChecksum header payload)).length := by
    rw [length_covered]
    exact Nat.add_lt_add_left within 20
  rw [← byteAt_covered header (udpChecksum header payload)] at other
  rw [bytes_eq_framed, framed_set, hasValidChecksums_framed sameLength, present, covered_set,
    Checksum.isValid_set (fits.isShort_covered header _) (isValid_covered fits header) inside
      other]
  rfl

/-- What was encoded is a datagram that is not too long. -/
theorem eq_bytes_of_encode {buffer after : Bytes} {header : DatagramHeader} {count : Nat}
    (encoded : encode buffer header payload = .ok (count, after)) :
    Fits payload ∧ after.take count = bytes header payload := by
  rw [encode] at encoded
  split at encoded
  · cases encoded
  split at encoded
  · cases encoded
  · rename_i short
    cases encoded
    exact ⟨Nat.not_lt.1 short, List.take_left' (length_bytes header payload)⟩

/-- Whatever is encoded is read back with correct checksums, and with any single bit of its
payload turned over its checksums are not correct. -/
theorem detects_flipBit_of_encode {buffer after : Bytes} {header : DatagramHeader} {count : Nat}
    (encoded : encode buffer header payload = .ok (count, after)) :
    let datagram : Bytes := after.take count
    hasValidChecksums datagram = true ∧
      ∃ view, decode datagram = .ok view ∧ view.payload datagram = payload ∧
        ∀ position < payload.length, ∀ bit : Fin 8,
          hasValidChecksums (datagram.flipBit (view.payloadOffset + position) bit) = false := by
  rcases eq_bytes_of_encode encoded with ⟨fits, datagram⟩
  rw [datagram]
  constructor
  case left => exact hasValidChecksums_bytes fits header
  case right =>
    refine ⟨_, decode_bytes fits header, payload_writtenView header payload, ?_⟩
    intro position within bit
    have here : (bytes header payload).byteAt (ipv4HeaderSize + udpHeaderSize + position) =
        payload.byteAt position := by
      apply Bytes.byteAt_append_right
      rfl
    apply hasValidChecksums_set fits header within
    rw [← here]
    exact Bytes.xor_bit_ne _ bit

/-- The checksum of this odd payload comes to zero and all ones are written.  No bit of its
three bytes can be turned over unseen. -/
theorem detects_flipBit_zeroChecksum :
    let header : DatagramHeader := ⟨.unspecified, .unspecified, 0, 0, 64⟩
    let payload : Bytes := [255, 216, 0]
    let datagram := bytes header payload
    encode (List.replicate 31 9) header payload = .ok (31, datagram) ∧
      datagram.word16At 26 = 65535 ∧ hasValidChecksums datagram = true ∧
      ∀ position < 3, ∀ bit : Fin 8,
        hasValidChecksums (datagram.flipBit (28 + position) bit) = false := by
  intro header payload datagram
  have encoded : encode (List.replicate 31 9) header payload = .ok (31, datagram) := by
    decide +kernel
  have ones : datagram.word16At 26 = 65535 := by decide +kernel
  have whole : datagram.take 31 = datagram := by decide +kernel
  have decoded : decode datagram = .ok (writtenView header payload) := by decide +kernel
  rcases detects_flipBit_of_encode encoded with ⟨valid, view, read, -, detected⟩
  rw [whole] at valid read detected
  cases read.symm.trans decoded
  exact ⟨encoded, ones, valid, detected⟩

end Datagram

end DhcpRelay
