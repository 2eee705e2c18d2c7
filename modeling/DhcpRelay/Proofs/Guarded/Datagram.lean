import DhcpRelay.Net.Datagram
import DhcpRelay.Proofs.Guarded.Basic

/-!
# Datagrams with guards

Decoding looks at no field before the length fields were found to fit.  A header length
of less than twenty bytes is let through, but also then the segment lies within the
datagram and the payload within the segment.
-/

namespace DhcpRelay.Guarded

/-! ## Decoding -/

/-- The length fields of the IPv4 header fit the bytes. -/
def hasIPv4Header (datagram : Bytes) : Guard Bool := do
  if datagram.length < ipv4HeaderSize then
    return false
  else
    let headerLength := (← byte datagram 0).toNat % 16 * 4
    let totalLength := (← word16 datagram 2).toNat
    return headerLength ≤ datagram.length && headerLength ≤ totalLength &&
      totalLength ≤ datagram.length

/-- The length field of the UDP header fits the segment. -/
def hasUdpHeader (segment : Bytes) : Guard Bool := do
  if segment.length < udpHeaderSize then
    return false
  else
    let udpLength := (← word16 segment 4).toNat
    return udpLength ≤ segment.length && udpHeaderSize ≤ udpLength

/-- The fields of a datagram whose headers fit its bytes. -/
def fields (datagram segment : Bytes) : Guard DatagramView := do
  let headerLength := (← byte datagram 0).toNat % 16 * 4
  return {
    source := ← address4 datagram 12
    destination := ← address4 datagram 16
    timeToLive := ← byte datagram 8
    sourcePort := ← word16 segment 0
    destinationPort := ← word16 segment 2
    payloadOffset := headerLength + udpHeaderSize
    payloadLength := ← subtract (← word16 segment 4).toNat udpHeaderSize }

/-- Read the headers of a datagram. -/
def decode (datagram : Bytes) : Guard (Except MessageFault DatagramView) := do
  if !(← hasIPv4Header datagram) then
    return .error (.malformedHeader .ipv4)
  else if (← byte datagram 9) ≠ udpProtocol then
    return .error (.malformedHeader .notUdp)
  else
    let flags := (← word16 datagram 6).toNat
    if flags / 8192 % 2 == 1 || flags % 8192 != 0 then
      return .error (.malformedHeader .fragmented)
    else
      let headerLength := (← byte datagram 0).toNat % 16 * 4
      let totalLength := (← word16 datagram 2).toNat
      let segment ← slice datagram headerLength totalLength
      if !(← hasUdpHeader segment) then
        return .error (.malformedHeader .udp)
      else
        return .ok (← fields datagram segment)

/-- The UDP payload of the datagram that was decoded to a view. -/
def payload (view : DatagramView) (datagram : Bytes) : Guard Bytes :=
  slice datagram view.payloadOffset (view.payloadOffset + view.payloadLength)

variable {datagram : Bytes} {view : DatagramView}

theorem hasIPv4Header_eq (datagram : Bytes) :
    hasIPv4Header datagram = .ok (Datagram.hasIPv4Header datagram) := by
  rw [hasIPv4Header, Datagram.hasIPv4Header]
  by_cases short : datagram.length < ipv4HeaderSize
  · rw [if_pos short, decide_eq_false (Nat.not_le.2 short)]
    rfl
  · have size : 20 ≤ datagram.length := Nat.not_lt.1 short
    rw [if_neg short, byte_eq (by omega), word16_eq (by omega), decide_eq_true (Nat.not_lt.1 short)]
    rfl

theorem hasUdpHeader_eq (segment : Bytes) :
    hasUdpHeader segment = .ok (Datagram.hasUdpHeader segment) := by
  rw [hasUdpHeader, Datagram.hasUdpHeader]
  by_cases short : segment.length < udpHeaderSize
  · rw [if_pos short, decide_eq_false (Nat.not_le.2 short)]
    rfl
  · have size : 8 ≤ segment.length := Nat.not_lt.1 short
    rw [if_neg short, word16_eq (by omega), decide_eq_true (Nat.not_lt.1 short)]
    rfl

/-- What the check of the IPv4 header finds out about lengths. -/
theorem bounds_of_hasIPv4Header (whole : Datagram.hasIPv4Header datagram = true) :
    20 ≤ datagram.length ∧
      datagram.InRange (Datagram.headerLength datagram) (Datagram.totalLength datagram) := by
  simp only [Datagram.hasIPv4Header, Bool.and_eq_true, decide_eq_true_eq] at whole
  exact ⟨whole.1.1.1, whole.1.2, whole.2⟩

/-- What the check of the UDP header finds out about lengths. -/
theorem bounds_of_hasUdpHeader {segment : Bytes} (whole : Datagram.hasUdpHeader segment = true) :
    8 ≤ Datagram.udpLength segment ∧ Datagram.udpLength segment ≤ segment.length := by
  simp only [Datagram.hasUdpHeader, Bool.and_eq_true, decide_eq_true_eq] at whole
  exact ⟨whole.2, whole.1.2⟩

theorem fields_eq (size : 20 ≤ datagram.length)
    (framed : Datagram.hasUdpHeader (Datagram.segment datagram) = true) :
    fields datagram (Datagram.segment datagram) = .ok {
      source := IPv4.readAt datagram 12
      destination := IPv4.readAt datagram 16
      timeToLive := datagram.byteAt 8
      sourcePort := (Datagram.segment datagram).word16At 0
      destinationPort := (Datagram.segment datagram).word16At 2
      payloadOffset := Datagram.headerLength datagram + udpHeaderSize
      payloadLength := Datagram.udpLength (Datagram.segment datagram) - udpHeaderSize } := by
  rcases bounds_of_hasUdpHeader framed with ⟨least, within⟩
  have enough : udpHeaderSize ≤ ((Datagram.segment datagram).word16At 4).toNat := least
  rw [fields, byte_eq (by omega), ok_bind, address4_eq (by omega), ok_bind,
    address4_eq (by omega), ok_bind, byte_eq (by omega), ok_bind, word16_eq (by omega), ok_bind,
    word16_eq (by omega), ok_bind, word16_eq (by omega), ok_bind, subtract_eq enough]
  rfl

theorem decode_eq (datagram : Bytes) : decode datagram = .ok (Datagram.decode datagram) := by
  rw [decode, hasIPv4Header_eq, ok_bind, Datagram.decode]
  cases whole : Datagram.hasIPv4Header datagram with
  | false => rfl
  | true =>
      rcases bounds_of_hasIPv4Header whole with ⟨size, bounds⟩
      have enclosed : slice datagram (Datagram.headerLength datagram)
          (Datagram.totalLength datagram) = .ok (Datagram.segment datagram) :=
        slice_eq bounds.1 bounds.2
      simp only [Bool.not_true, Bool.false_eq_true, if_false]
      rw [byte_eq (by omega : 9 < datagram.length), ok_bind]
      by_cases notUdp : datagram.byteAt 9 ≠ udpProtocol
      · rw [if_pos notUdp, if_pos notUdp]
        rfl
      · rw [if_neg notUdp, if_neg notUdp, word16_eq (by omega), ok_bind]
        change (if Datagram.isFragment datagram = true then _ else _) = _
        cases Datagram.isFragment datagram with
        | true => rfl
        | false =>
            simp only [Bool.false_eq_true, if_false]
            rw [byte_eq (by omega), ok_bind, word16_eq (by omega), ok_bind]
            change (slice datagram (Datagram.headerLength datagram)
              (Datagram.totalLength datagram) >>= _) = _
            rw [enclosed, ok_bind, hasUdpHeader_eq, ok_bind]
            cases framed : Datagram.hasUdpHeader (Datagram.segment datagram) with
            | false => rfl
            | true =>
                simp only [Bool.not_true, Bool.false_eq_true, if_false]
                rw [fields_eq size framed]
                rfl

/-- The payload of a datagram that was decoded lies within it, whatever header length
it states. -/
theorem inRange_of_decode (decoded : Datagram.decode datagram = .ok view) :
    datagram.InRange view.payloadOffset (view.payloadOffset + view.payloadLength) := by
  unfold Datagram.decode at decoded
  split at decoded
  · cases decoded
  split at decoded
  · cases decoded
  split at decoded
  · cases decoded
  split at decoded
  · cases decoded
  rename_i unread _ _ unframed
  have whole : Datagram.hasIPv4Header datagram = true := by simpa using unread
  have framed : Datagram.hasUdpHeader (Datagram.segment datagram) = true := by simpa using unframed
  rcases bounds_of_hasIPv4Header whole with ⟨_, bounds⟩
  rcases bounds_of_hasUdpHeader framed with ⟨least, within⟩
  have size : (Datagram.segment datagram).length = _ := Bytes.length_slice_of_inRange bounds
  injection decoded with same
  subst same
  refine ⟨Nat.le_add_right _ _, ?_⟩
  show Datagram.headerLength datagram + 8 + (Datagram.udpLength (Datagram.segment datagram) - 8) ≤
    datagram.length
  have ordered := bounds.1
  have inside := bounds.2
  omega

theorem payload_eq (decoded : Datagram.decode datagram = .ok view) :
    payload view datagram = .ok (view.payload datagram) :=
  if_pos (inRange_of_decode decoded)

/-! ## Encoding -/

/-- Write two headers and a payload over a frame.  The payload has the place that the
length field of the first header says. -/
def fill (frame ipHeader udpHeader payload : Bytes) : Guard Bytes := do
  let frame ← copy frame 0 ipv4HeaderSize ipHeader
  let stop := (← word16 frame 2).toNat
  let frame ← copy frame ipv4HeaderSize (ipv4HeaderSize + udpHeaderSize) udpHeader
  copy frame (ipv4HeaderSize + udpHeaderSize) stop payload

/-- Write a datagram over the start of a buffer. -/
def encode (buffer : Bytes) (header : DatagramHeader) (payload : Bytes) :
    Guard (Except MessageFault (Nat × Bytes)) := do
  let total := ipv4HeaderSize + udpHeaderSize + payload.length
  if buffer.length < total then
    return .error (.bufferTooSmall total buffer.length)
  else if 65535 < total then
    return .error (.malformedHeader .datagramTooLong)
  else
    let checksum := Checksum.complement (Datagram.ipv4Header header total 0)
    let frame ← slice buffer 0 total
    let frame ← fill frame (Datagram.ipv4Header header total checksum)
      (Datagram.udpHeader header (udpHeaderSize + payload.length)
        (Datagram.udpChecksum header payload)) payload
    return .ok (total, frame ++ buffer.drop total)

theorem byteAt_append {front back : Bytes} {position : Nat} (inside : position < front.length) :
    (front ++ back).byteAt position = front.byteAt position := by
  exact Bytes.byteAt_of_getElem?_eq (List.getElem?_append_left inside)

theorem fill_eq {frame ipHeader udpHeader payload : Bytes} (ipSize : ipHeader.length = 20)
    (udpSize : udpHeader.length = 8) (size : frame.length = 28 + payload.length)
    (measured : (ipHeader.word16At 2).toNat = frame.length) :
    fill frame ipHeader udpHeader payload = .ok (ipHeader ++ udpHeader ++ payload) := by
  have first : copy ([] ++ frame) 0 20 ipHeader =
      .ok ([] ++ ipHeader ++ frame.drop ipHeader.length) :=
    copy_append rfl (by omega) (by omega)
  have room : (frame.drop ipHeader.length).length = 8 + payload.length := by
    rw [List.length_drop]
    omega
  have second : copy (ipHeader ++ frame.drop ipHeader.length) 20 28 udpHeader =
      .ok (ipHeader ++ udpHeader ++ (frame.drop ipHeader.length).drop udpHeader.length) :=
    copy_append ipSize (by omega) (by omega)
  have left : ((frame.drop ipHeader.length).drop udpHeader.length).length = payload.length := by
    rw [List.length_drop]
    omega
  have third : copy (ipHeader ++ udpHeader ++
      (frame.drop ipHeader.length).drop udpHeader.length) 28 frame.length payload =
        .ok (ipHeader ++ udpHeader ++ payload) := by
    rw [copy_append (by rw [List.length_append]; omega) (by omega) (by omega), ← left,
      List.drop_length, List.append_nil]
  have read : word16 (ipHeader ++ frame.drop ipHeader.length) 2 = .ok (ipHeader.word16At 2) := by
    rw [word16_eq (by rw [List.length_append]; omega), Bytes.word16At, Bytes.word16At,
      byteAt_append (by omega), byteAt_append (by omega)]
  calc
    fill frame ipHeader udpHeader payload =
        (copy (ipHeader ++ frame.drop ipHeader.length) 20 28 udpHeader >>= fun frame1 =>
          copy frame1 28 (ipHeader.word16At 2).toNat payload) := by
      change (copy ([] ++ frame) 0 20 ipHeader >>= _) = _
      rw [first, ok_bind, List.nil_append, read]
      rfl
    _ = .ok (ipHeader ++ udpHeader ++ payload) := by rw [second, ok_bind, measured, third]

theorem word16At_ipv4Header (header : DatagramHeader) (total : Nat) (checksum : UInt16) :
    (Datagram.ipv4Header header total checksum).word16At 2 = UInt16.ofNat total :=
  Bytes.word16_ofNat (UInt16.ofNat total)

theorem encode_eq (buffer : Bytes) (header : DatagramHeader) (payload : Bytes) :
    encode buffer header payload = .ok (Datagram.encode buffer header payload) := by
  rw [encode, Datagram.encode]
  generalize sized : ipv4HeaderSize + udpHeaderSize + payload.length = total
  by_cases small : buffer.length < total
  · rw [if_pos small, if_pos small]
    rfl
  · rw [if_neg small, if_neg small]
    by_cases long : 65535 < total
    · rw [if_pos long, if_pos long]
      rfl
    · have within : total ≤ buffer.length := Nat.not_lt.1 small
      have size : (buffer.slice 0 total).length = total :=
        Bytes.length_slice_of_inRange ⟨Nat.zero_le _, within⟩
      have measured : ∀ checksum, ((Datagram.ipv4Header header total checksum).word16At 2).toNat =
          (buffer.slice 0 total).length := by
        intro checksum
        rw [word16At_ipv4Header, UInt16.toNat_ofNat', Nat.mod_eq_of_lt (by omega), size]
      have filled : ∀ checksum, fill (buffer.slice 0 total)
          (Datagram.ipv4Header header total checksum)
          (Datagram.udpHeader header (udpHeaderSize + payload.length)
            (Datagram.udpChecksum header payload)) payload = _ :=
        fun checksum => fill_eq rfl rfl (size.trans sized.symm) (measured checksum)
      rw [if_neg long, if_neg long, slice_eq (Nat.zero_le _) within, ok_bind, filled, ok_bind,
        Datagram.bytes, ← Nat.add_assoc, sized]
      rfl

end DhcpRelay.Guarded
