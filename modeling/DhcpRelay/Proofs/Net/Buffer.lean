import DhcpRelay.Proofs.Net.Datagram

/-!
# Datagrams written into a buffer

A datagram is written part by part over the start of a buffer that belongs to the caller.
`write` says so step by step, and `encode` is what it comes to.  A datagram that does not fit
is refused before the first step; any other is read back as it was written.
-/

namespace DhcpRelay

theorem Bytes.overwrite_append {front part : Bytes} {index : Nat} (here : front.length = index)
    (back : Bytes) :
    (front ++ back).overwrite index part = front ++ part ++ back.drop part.length := by
  subst here
  simp [overwrite]

namespace Datagram

/-! ## Writing step by step -/

/-- Steps that write to a buffer.  One that fails ends the writing, and what was written
until then stays. -/
abbrev Writing := ExceptT MessageFault (StateM Bytes)

/-- Write a part over the bytes of the buffer from `index` on. -/
def put (index : Nat) (part : Bytes) : Writing Unit :=
  modify fun buffer => buffer.overwrite index part

/-- The IPv4 header of a datagram, with its checksum. -/
def writtenIPv4Header (header : DatagramHeader) (payload : Bytes) : Bytes :=
  let total := ipv4HeaderSize + (udpHeaderSize + payload.length)
  ipv4Header header total (Checksum.complement (ipv4Header header total 0))

/-- The UDP header of a datagram, with its checksum. -/
def writtenUdpHeader (header : DatagramHeader) (payload : Bytes) : Bytes :=
  udpHeader header (udpHeaderSize + payload.length) (udpChecksum header payload)

/-- Write the parts of a datagram over the start of the buffer.  The UDP header comes last,
when the payload is in its place. -/
def putParts (header : DatagramHeader) (payload : Bytes) : Writing Unit := do
  put 0 (writtenIPv4Header header payload)
  put (ipv4HeaderSize + udpHeaderSize) payload
  put ipv4HeaderSize (writtenUdpHeader header payload)

/-- Write a datagram over the start of the buffer and give its size. -/
def write (header : DatagramHeader) (payload : Bytes) : Writing Nat := do
  let total := ipv4HeaderSize + udpHeaderSize + payload.length
  let buffer ← get
  if buffer.length < total then
    throw (.bufferTooSmall total buffer.length)
  else if 65535 < total then
    throw (.malformedHeader .datagramTooLong)
  else
    putParts header payload
    return total

/-- What writing a datagram gives, and the buffer afterwards. -/
def written (buffer : Bytes) (header : DatagramHeader) (payload : Bytes) :
    Except MessageFault Nat × Bytes :=
  (write header payload).run.run buffer

/-! ## The buffer afterwards -/

variable {buffer payload : Bytes}

/-- The three parts fill the front of a buffer in which they have room. -/
theorem overwrite_parts (first second : Bytes) (firstSize : first.length = ipv4HeaderSize)
    (secondSize : second.length = udpHeaderSize)
    (room : ipv4HeaderSize + udpHeaderSize + payload.length ≤ buffer.length) :
    ((buffer.overwrite 0 first).overwrite (ipv4HeaderSize + udpHeaderSize) payload).overwrite
        ipv4HeaderSize second =
      first ++ second ++ payload ++ buffer.drop (ipv4HeaderSize + udpHeaderSize + payload.length) := by
  let gap := (buffer.drop ipv4HeaderSize).take udpHeaderSize
  have gapSize : gap.length = udpHeaderSize := by
    have within : 28 + payload.length ≤ buffer.length := room
    change ((buffer.drop 20).take 8).length = 8
    rw [List.length_take, List.length_drop]
    omega
  have framed : buffer.overwrite 0 first =
      (first ++ gap) ++ buffer.drop (ipv4HeaderSize + udpHeaderSize) := by
    rw [← List.drop_drop, List.append_assoc, List.take_append_drop, Bytes.overwrite, firstSize]
    rfl
  have frontSize : (first ++ gap).length = ipv4HeaderSize + udpHeaderSize := by
    rw [List.length_append, firstSize, gapSize]
  have behind : (buffer.drop (ipv4HeaderSize + udpHeaderSize)).drop payload.length =
      buffer.drop (ipv4HeaderSize + udpHeaderSize + payload.length) := List.drop_drop
  rw [framed, Bytes.overwrite_append frontSize, behind, List.append_assoc, List.append_assoc,
    Bytes.overwrite_append firstSize, List.drop_left' (gapSize.trans secondSize.symm)]
  simp only [List.append_assoc]

/-- What writing comes to: nothing is written if the datagram is refused. -/
theorem written_eq (buffer : Bytes) (header : DatagramHeader) (payload : Bytes) :
    let total := ipv4HeaderSize + udpHeaderSize + payload.length
    written buffer header payload =
      if buffer.length < total then (.error (.bufferTooSmall total buffer.length), buffer)
      else if 65535 < total then (.error (.malformedHeader .datagramTooLong), buffer)
      else (.ok total, bytes header payload ++ buffer.drop total) := by
  intro total
  have steps : written buffer header payload =
      ExceptT.run (if buffer.length < total then throw (.bufferTooSmall total buffer.length)
        else if 65535 < total then throw (.malformedHeader .datagramTooLong)
        else do putParts header payload; return total : Writing Nat) buffer := rfl
  rw [steps]
  split
  · rfl
  split
  · rfl
  · rename_i roomy _
    have parts := overwrite_parts (writtenIPv4Header header payload)
      (writtenUdpHeader header payload) rfl rfl (Nat.not_lt.1 roomy)
    exact congrArg (Prod.mk _) parts

/-- Encoding gives the result of writing, and the buffer unless the datagram is refused. -/
theorem encode_eq_map_written (buffer : Bytes) (header : DatagramHeader) (payload : Bytes) :
    encode buffer header payload =
      (written buffer header payload).1.map fun count =>
        (count, (written buffer header payload).2) := by
  rw [written_eq, encode]
  split
  · rfl
  split <;> rfl

/-! ## Reading back -/

/-- The bytes are a datagram with this header and payload.  Both of its checksums are
correct, and it does have a UDP checksum. -/
structure Carries (header : DatagramHeader) (payload datagram : Bytes) : Prop where
  hasValidChecksums : hasValidChecksums datagram = true
  hasUdpChecksum : (segment datagram).word16At 6 ≠ 0
  decoded : ∃ view, decode datagram = .ok view ∧
    view.source = header.source ∧ view.destination = header.destination ∧
    view.sourcePort = header.sourcePort ∧ view.destinationPort = header.destinationPort ∧
    view.timeToLive = header.timeToLive ∧ view.payload datagram = payload

/-- All ones are written where the checksum comes to zero. -/
theorem udpChecksum_ne_zero (header : DatagramHeader) (payload : Bytes) :
    udpChecksum header payload ≠ 0 := by
  generalize sum : Checksum.complement (covered header payload 0) = checksum
  have written : udpChecksum header payload = if checksum = 0 then 65535 else checksum :=
    sum ▸ rfl
  rw [written]
  split
  · decide
  · assumption

theorem carries_bytes (fits : Fits payload) (header : DatagramHeader) :
    Carries header payload (bytes header payload) := by
  constructor
  case hasValidChecksums => exact hasValidChecksums_bytes fits header
  case hasUdpChecksum =>
    have field : (writtenSegment header payload).word16At 6 = udpChecksum header payload :=
      Bytes.word16_ofNat _
    rw [segment_bytes fits, field]
    exact udpChecksum_ne_zero header payload
  case decoded =>
    exact ⟨_, decode_bytes fits header, rfl, rfl, rfl, rfl, rfl, payload_writtenView header payload⟩

/-- A datagram is refused for a buffer that is too small, else for its length fields if it is
too long for them, and the buffer stays as it was.  Any other is written over the start of
the buffer and nothing else, and what was written is read as the same header and payload. -/
theorem carries_of_written (buffer : Bytes) (header : DatagramHeader) (payload : Bytes) :
    let total := ipv4HeaderSize + udpHeaderSize + payload.length
    let result := (written buffer header payload).1
    let after := (written buffer header payload).2
    (result = .error (.bufferTooSmall total buffer.length) ↔ buffer.length < total) ∧
      (result = .error (.malformedHeader .datagramTooLong) ↔
        total ≤ buffer.length ∧ 65535 < total) ∧
      (result = .ok total ↔ total ≤ buffer.length ∧ total ≤ 65535) ∧
      (∀ fault, result = .error fault → after = buffer) ∧
      (result = .ok total → after.length = buffer.length ∧
        after.drop total = buffer.drop total ∧ Carries header payload (after.take total)) ∧
      encode buffer header payload = result.map fun count => (count, after) := by
  intro total result after
  have encoded := encode_eq_map_written buffer header payload
  have comes : written buffer header payload = _ := written_eq buffer header payload
  by_cases small : buffer.length < total
  · have refused : written buffer header payload =
        (.error (.bufferTooSmall total buffer.length), buffer) := comes.trans (if_pos small)
    simp only [result, after, encoded, refused]
    simp [small, Nat.not_le.2 small]
  · have roomy := Nat.not_lt.1 small
    by_cases long : 65535 < total
    · have refused : written buffer header payload =
          (.error (.malformedHeader .datagramTooLong), buffer) :=
        (comes.trans (if_neg small)).trans (if_pos long)
      simp only [result, after, encoded, refused]
      simp [small, roomy, long, Nat.not_le.2 long]
    · have fits : Fits payload := Nat.not_lt.1 long
      have done : written buffer header payload =
          (.ok total, bytes header payload ++ buffer.drop total) :=
        (comes.trans (if_neg small)).trans (if_neg long)
      have size : (bytes header payload).length = total := length_bytes header payload
      simp only [result, after, encoded, done]
      simp [small, long, roomy, size, Nat.not_lt.1 long, List.take_left' size,
        List.drop_left' size, carries_bytes fits header]

/-- A payload of three bytes for which the checksum comes to zero.  It is written as all ones
then, and read back like any other. -/
theorem carries_zeroChecksum :
    let header : DatagramHeader := ⟨.unspecified, .unspecified, 0, 0, 64⟩
    let payload : Bytes := [255, 216, 0]
    let buffer : Bytes := List.replicate 40 9
    let after := (written buffer header payload).2
    Checksum.complement (covered header payload 0) = 0 ∧
      (written buffer header payload).1 = .ok 31 ∧ after.drop 31 = List.replicate 9 9 ∧
      Carries header payload (after.take 31) := by
  intro header payload buffer after
  have zero : Checksum.complement (covered header payload 0) = 0 := by decide +kernel
  have done : (written buffer header payload).1 = .ok 31 := by decide +kernel
  have carried := (carries_of_written buffer header payload).2.2.2.2.1 done
  exact ⟨zero, done, carried.2.1, carried.2.2⟩

end Datagram

end DhcpRelay
