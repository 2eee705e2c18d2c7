import DhcpRelay.Net.Datagram
import DhcpRelay.Proofs.Dhcp4.Header
import DhcpRelay.Proofs.Net.Checksum
import DhcpRelay.Proofs.OptionLayout

/-!
# Datagrams that are written

A datagram that is not too long for its length fields is read back field by field, and both
of its checksums are correct, whatever its payload is.
-/

namespace DhcpRelay.Datagram

variable {payload : Bytes}

/-- A datagram with this payload is not longer than its length field can say. -/
def Fits (payload : Bytes) : Prop :=
  ipv4HeaderSize + udpHeaderSize + payload.length ≤ 65535

/-- Over a buffer of its size a datagram is written whole, or it is too long. -/
theorem encode_of_length {buffer : Bytes}
    (size : buffer.length = ipv4HeaderSize + udpHeaderSize + payload.length)
    (header : DatagramHeader) :
    encode buffer header payload =
      if 65535 < buffer.length then .error (.malformedHeader .datagramTooLong)
      else .ok (buffer.length, bytes header payload) := by
  rw [encode, ← size, if_neg (Nat.lt_irrefl _), List.drop_length, List.append_nil]

theorem Fits.toNat_length (fits : Fits payload) :
    (UInt16.ofNat (udpHeaderSize + payload.length)).toNat = udpHeaderSize + payload.length := by
  have bound : 28 + payload.length ≤ 65535 := fits
  exact UInt16.toNat_ofNat_of_lt' (by change 8 + payload.length < 65536; omega)

theorem Fits.toNat_total (fits : Fits payload) :
    (UInt16.ofNat (ipv4HeaderSize + (udpHeaderSize + payload.length))).toNat =
      ipv4HeaderSize + udpHeaderSize + payload.length := by
  have bound : 28 + payload.length ≤ 65535 := fits
  rw [← Nat.add_assoc]
  exact UInt16.toNat_ofNat_of_lt' (by change 28 + payload.length < 65536; omega)

/-! ## Reading back -/

/-- A datagram with any value in the field for its UDP checksum. -/
def framed (header : DatagramHeader) (checksum : UInt16) (payload : Bytes) : Bytes :=
  let length := udpHeaderSize + payload.length
  let total := ipv4HeaderSize + length
  ipv4Header header total (Checksum.complement (ipv4Header header total 0)) ++
    udpHeader header length checksum ++ payload

/-- The UDP segment of such a datagram. -/
def framedSegment (header : DatagramHeader) (checksum : UInt16) (payload : Bytes) : Bytes :=
  udpHeader header (udpHeaderSize + payload.length) checksum ++ payload

/-- The UDP segment of a datagram. -/
def writtenSegment (header : DatagramHeader) (payload : Bytes) : Bytes :=
  udpHeader header (udpHeaderSize + payload.length) (udpChecksum header payload) ++ payload

theorem bytes_eq_framed (header : DatagramHeader) (payload : Bytes) :
    bytes header payload = framed header (udpChecksum header payload) payload := rfl

theorem length_framed (header : DatagramHeader) (checksum : UInt16) (payload : Bytes) :
    (framed header checksum payload).length = ipv4HeaderSize + udpHeaderSize + payload.length := by
  rw [framed, List.length_append, List.length_append]
  rfl

theorem length_bytes (header : DatagramHeader) (payload : Bytes) :
    (bytes header payload).length = ipv4HeaderSize + udpHeaderSize + payload.length :=
  length_framed header (udpChecksum header payload) payload

theorem drop_framed (header : DatagramHeader) (checksum : UInt16) (payload : Bytes) :
    (framed header checksum payload).drop ipv4HeaderSize =
      framedSegment header checksum payload := rfl

theorem headerLength_framed (header : DatagramHeader) (checksum : UInt16) (payload : Bytes) :
    headerLength (framed header checksum payload) = ipv4HeaderSize := by
  have first : (framed header checksum payload).byteAt 0 = 0x45 := rfl
  rw [headerLength, first]
  rfl

theorem isFragment_framed (header : DatagramHeader) (checksum : UInt16) (payload : Bytes) :
    isFragment (framed header checksum payload) = false := by
  have flags : (framed header checksum payload).word16At 6 = Bytes.word16 0x40 0 := rfl
  rw [isFragment, flags]
  rfl

theorem totalLength_framed (fits : Fits payload) (header : DatagramHeader) (checksum : UInt16) :
    totalLength (framed header checksum payload) =
      ipv4HeaderSize + udpHeaderSize + payload.length := by
  have read : (framed header checksum payload).word16At 2 =
      UInt16.ofNat (ipv4HeaderSize + (udpHeaderSize + payload.length)) := Bytes.word16_ofNat _
  rw [totalLength, read, fits.toNat_total]

theorem length_framedSegment (header : DatagramHeader) (checksum : UInt16) (payload : Bytes) :
    (framedSegment header checksum payload).length = udpHeaderSize + payload.length := by
  rw [framedSegment, List.length_append]
  rfl

theorem segment_framed (fits : Fits payload) (header : DatagramHeader) (checksum : UInt16) :
    segment (framed header checksum payload) = framedSegment header checksum payload := by
  rw [segment, headerLength_framed, totalLength_framed fits]
  have behind : (framed header checksum payload).drop ipv4HeaderSize =
      framedSegment header checksum payload ++ [] := by
    rw [drop_framed, List.append_nil]
  apply Bytes.slice_of_drop behind
  rw [length_framedSegment, Nat.add_assoc, Nat.add_sub_cancel_left]

theorem segment_bytes (fits : Fits payload) (header : DatagramHeader) :
    segment (bytes header payload) = writtenSegment header payload :=
  segment_framed fits header (udpChecksum header payload)

theorem udpLength_framedSegment (fits : Fits payload) (header : DatagramHeader)
    (checksum : UInt16) :
    udpLength (framedSegment header checksum payload) = udpHeaderSize + payload.length := by
  have read : (framedSegment header checksum payload).word16At 4 =
      UInt16.ofNat (udpHeaderSize + payload.length) := Bytes.word16_ofNat _
  rw [udpLength, read, fits.toNat_length]

theorem hasIPv4Header_framed (fits : Fits payload) (header : DatagramHeader)
    (checksum : UInt16) : hasIPv4Header (framed header checksum payload) = true := by
  have total := totalLength_framed fits header checksum
  simp only [hasIPv4Header, headerLength_framed, total, length_framed, Bool.and_eq_true,
    decide_eq_true_eq, Nat.add_assoc, Nat.le_add_right, Nat.le_refl, and_self]

theorem hasUdpHeader_framedSegment (fits : Fits payload) (header : DatagramHeader)
    (checksum : UInt16) : hasUdpHeader (framedSegment header checksum payload) = true := by
  have length := udpLength_framedSegment fits header checksum
  simp only [hasUdpHeader, length, length_framedSegment, Bool.and_eq_true, decide_eq_true_eq,
    Nat.le_add_right, Nat.le_refl, and_self]

/-- What is read of a datagram that was written. -/
def writtenView (header : DatagramHeader) (payload : Bytes) : DatagramView where
  source := header.source
  destination := header.destination
  timeToLive := header.timeToLive
  sourcePort := header.sourcePort
  destinationPort := header.destinationPort
  payloadOffset := ipv4HeaderSize + udpHeaderSize
  payloadLength := payload.length

theorem decode_bytes (fits : Fits payload) (header : DatagramHeader) :
    decode (bytes header payload) = .ok (writtenView header payload) := by
  rw [bytes_eq_framed]
  generalize udpChecksum header payload = checksum
  have udp : (framed header checksum payload).byteAt 9 = udpProtocol := rfl
  have source : (framedSegment header checksum payload).word16At 0 = header.sourcePort :=
    Bytes.word16_ofNat _
  have destination : (framedSegment header checksum payload).word16At 2 =
      header.destinationPort := Bytes.word16_ofNat _
  rw [decode, hasIPv4Header_framed fits, udp, isFragment_framed, segment_framed fits,
    hasUdpHeader_framedSegment fits, udpLength_framedSegment fits, headerLength_framed, source,
    destination, Nat.add_sub_cancel_left]
  rfl

theorem payload_writtenView (header : DatagramHeader) (payload : Bytes) :
    (writtenView header payload).payload (bytes header payload) = payload := by
  have behind : (bytes header payload).drop (ipv4HeaderSize + udpHeaderSize) =
      payload ++ [] := by
    rw [List.append_nil]
    rfl
  exact Bytes.slice_of_drop behind (Nat.add_sub_cancel_left _ payload.length).symm

/-! ## Checksums -/

/-- The checksum field of an IPv4 header stands behind ten bytes. -/
theorem wordSum_ipv4Header (header : DatagramHeader) (total : Nat) (checksum : UInt16) :
    Checksum.wordSum (ipv4Header header total checksum) =
      Checksum.wordSum (ipv4Header header total 0) + checksum.toNat := by
  let front : Bytes := [0x45, 0] ++ Bytes.ofWord16 (UInt16.ofNat total) ++ [0, 0, 0x40, 0] ++
    [header.timeToLive, udpProtocol]
  have size : front.length = 10 := rfl
  have even : front.length % 2 = 0 := by rw [size]
  exact Checksum.wordSum_field even checksum (header.source.octets ++ header.destination.octets)

theorem isValid_ipv4Header (header : DatagramHeader) (total : Nat) :
    Checksum.isValid
      (ipv4Header header total (Checksum.complement (ipv4Header header total 0))) = true := by
  have short : ∀ checksum, Checksum.IsShort (ipv4Header header total checksum) := by
    intro checksum
    change 20 < 131072
    decide
  rw [Checksum.isValid_iff (short _), wordSum_ipv4Header]
  exact Checksum.isFull_add_complement (short 0)

/-- The bytes that the UDP checksum covers, with a value in its field. -/
def covered (header : DatagramHeader) (payload : Bytes) (checksum : UInt16) : Bytes :=
  let length := udpHeaderSize + payload.length
  pseudoHeader header.source header.destination length ++ udpHeader header length checksum ++
    payload

theorem length_covered (header : DatagramHeader) (payload : Bytes) (checksum : UInt16) :
    (covered header payload checksum).length = 20 + payload.length := by
  rw [covered, List.length_append]
  rfl

theorem wordSum_covered (header : DatagramHeader) (payload : Bytes) (checksum : UInt16) :
    Checksum.wordSum (covered header payload checksum) =
      Checksum.wordSum (covered header payload 0) + checksum.toNat := by
  let length := udpHeaderSize + payload.length
  let front : Bytes := pseudoHeader header.source header.destination length ++
    Bytes.ofWord16 header.sourcePort ++ Bytes.ofWord16 header.destinationPort ++
    Bytes.ofWord16 (UInt16.ofNat length)
  have size : front.length = 18 := rfl
  have even : front.length % 2 = 0 := by rw [size]
  exact Checksum.wordSum_field even checksum payload

theorem Fits.isShort_covered (fits : Fits payload) (header : DatagramHeader)
    (checksum : UInt16) : Checksum.IsShort (covered header payload checksum) := by
  have bound : 28 + payload.length ≤ 65535 := fits
  rw [Checksum.IsShort, length_covered]
  omega

/-- All ones stand for a checksum of zero and add up to the same. -/
theorem isValid_covered (fits : Fits payload) (header : DatagramHeader) :
    Checksum.isValid (covered header payload (udpChecksum header payload)) = true := by
  have full := Checksum.isFull_add_complement (fits.isShort_covered header 0)
  rw [Checksum.isValid_iff (fits.isShort_covered header _), wordSum_covered]
  have written : udpChecksum header payload =
      if Checksum.complement (covered header payload 0) = 0 then 65535
      else Checksum.complement (covered header payload 0) := rfl
  rw [written]
  split
  · rename_i zero
    have none : (0 : UInt16).toNat = 0 := rfl
    have ones : (65535 : UInt16).toNat = Checksum.allOnes := rfl
    rw [zero, none, Nat.add_zero] at full
    rw [ones]
    exact Checksum.isFull_add_allOnes full
  · exact full

/-- The IPv4 checksum is correct, so that of UDP decides.  In its field a zero says that there
is none. -/
theorem hasValidChecksums_framed (fits : Fits payload) (header : DatagramHeader)
    (checksum : UInt16) :
    hasValidChecksums (framed header checksum payload) =
      (checksum == 0 || Checksum.isValid (covered header payload checksum)) := by
  have front : (framed header checksum payload).take ipv4HeaderSize =
      ipv4Header header (ipv4HeaderSize + (udpHeaderSize + payload.length))
        (Checksum.complement
          (ipv4Header header (ipv4HeaderSize + (udpHeaderSize + payload.length)) 0)) := rfl
  have source : IPv4.readAt (framed header checksum payload) 12 = header.source := rfl
  have destination : IPv4.readAt (framed header checksum payload) 16 = header.destination := rfl
  have field : (framedSegment header checksum payload).word16At 6 = checksum :=
    Bytes.word16_ofNat _
  have all : (framedSegment header checksum payload).take (udpHeaderSize + payload.length) =
      framedSegment header checksum payload :=
    List.take_of_length_le (Nat.le_of_eq (length_framedSegment header checksum payload))
  have sums : udpChecksumValid header.source header.destination
      (framedSegment header checksum payload) =
        (checksum == 0 || Checksum.isValid (covered header payload checksum)) := by
    rw [udpChecksumValid, udpLength_framedSegment fits header checksum, all, field,
      framedSegment, ← List.append_assoc]
    rfl
  rw [hasValidChecksums, hasIPv4Header_framed fits, headerLength_framed, front,
    isValid_ipv4Header, segment_framed fits, hasUdpHeader_framedSegment fits, source,
    destination, sums]
  rfl

/-- Both checksums of a datagram that was written are correct. -/
theorem hasValidChecksums_bytes (fits : Fits payload) (header : DatagramHeader) :
    hasValidChecksums (bytes header payload) = true := by
  rw [bytes_eq_framed, hasValidChecksums_framed fits, isValid_covered fits, Bool.or_true]

end DhcpRelay.Datagram
