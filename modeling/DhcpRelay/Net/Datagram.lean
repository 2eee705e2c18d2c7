import DhcpRelay.Address.IPv4
import DhcpRelay.MessageFault
import DhcpRelay.Net.Checksum

/-!
# IPv4 datagrams that carry UDP

`decode` reads the two headers of a received datagram, `encode` writes a
datagram with both checksums, and `hasValidChecksums` checks them.  Decoding does
not look at checksums, nor at the version, and takes any header length.
-/

namespace DhcpRelay

/-- The size of an IPv4 header without options. -/
def ipv4HeaderSize : Nat := 20

/-- The size of a UDP header. -/
def udpHeaderSize : Nat := 8

/-- The protocol number of UDP. -/
def udpProtocol : UInt8 := 17

/-- The headers of a received datagram. -/
structure DatagramView where
  source : IPv4
  destination : IPv4
  timeToLive : UInt8
  sourcePort : UInt16
  destinationPort : UInt16
  payloadOffset : Nat
  payloadLength : Nat
  deriving DecidableEq, Repr

/-- The headers of a datagram to send. -/
structure DatagramHeader where
  source : IPv4
  destination : IPv4
  sourcePort : UInt16
  destinationPort : UInt16
  timeToLive : UInt8
  deriving DecidableEq, Repr

namespace Datagram

/-- The header length field, in bytes. -/
def headerLength (datagram : Bytes) : Nat :=
  (datagram.byteAt 0).toNat % 16 * 4

/-- The total length field. -/
def totalLength (datagram : Bytes) : Nat :=
  (datagram.word16At 2).toNat

/-- The length fields of the IPv4 header fit the bytes. -/
def hasIPv4Header (datagram : Bytes) : Bool :=
  ipv4HeaderSize ≤ datagram.length && headerLength datagram ≤ datagram.length &&
    headerLength datagram ≤ totalLength datagram && totalLength datagram ≤ datagram.length

/-- What the IPv4 header encloses. -/
def segment (datagram : Bytes) : Bytes :=
  datagram.slice (headerLength datagram) (totalLength datagram)

/-- More fragments follow, or some came before. -/
def isFragment (datagram : Bytes) : Bool :=
  let flags := (datagram.word16At 6).toNat
  flags / 8192 % 2 == 1 || flags % 8192 != 0

/-- The length field of a UDP segment. -/
def udpLength (segment : Bytes) : Nat :=
  (segment.word16At 4).toNat

/-- The length field of the UDP header fits the segment. -/
def hasUdpHeader (segment : Bytes) : Bool :=
  udpHeaderSize ≤ segment.length && udpLength segment ≤ segment.length &&
    udpHeaderSize ≤ udpLength segment

/-- Read the headers of a datagram. -/
def decode (datagram : Bytes) : Except MessageFault DatagramView :=
  if !hasIPv4Header datagram then
    .error (.malformedHeader .ipv4)
  else if datagram.byteAt 9 ≠ udpProtocol then
    .error (.malformedHeader .notUdp)
  else if isFragment datagram then
    .error (.malformedHeader .fragmented)
  else if !hasUdpHeader (segment datagram) then
    .error (.malformedHeader .udp)
  else
    .ok {
      source := IPv4.readAt datagram 12
      destination := IPv4.readAt datagram 16
      timeToLive := datagram.byteAt 8
      sourcePort := (segment datagram).word16At 0
      destinationPort := (segment datagram).word16At 2
      payloadOffset := headerLength datagram + udpHeaderSize
      payloadLength := udpLength (segment datagram) - udpHeaderSize }

end Datagram

/-- The UDP payload of the datagram that was decoded to this view. -/
def DatagramView.payload (view : DatagramView) (datagram : Bytes) : Bytes :=
  datagram.slice view.payloadOffset (view.payloadOffset + view.payloadLength)

namespace Datagram

/-- The bytes that a UDP checksum covers besides the segment. -/
def pseudoHeader (source destination : IPv4) (length : Nat) : Bytes :=
  source.octets ++ destination.octets ++ [0, udpProtocol] ++
    Bytes.ofWord16 (UInt16.ofNat length)

/-- The IPv4 header of a datagram of `total` bytes, with a checksum field. -/
def ipv4Header (header : DatagramHeader) (total : Nat) (checksum : UInt16) : Bytes :=
  [0x45, 0] ++ Bytes.ofWord16 (UInt16.ofNat total) ++ [0, 0, 0x40, 0] ++
    [header.timeToLive, udpProtocol] ++ Bytes.ofWord16 checksum ++
    header.source.octets ++ header.destination.octets

/-- The UDP header of a segment of `length` bytes, with a checksum field. -/
def udpHeader (header : DatagramHeader) (length : Nat) (checksum : UInt16) : Bytes :=
  Bytes.ofWord16 header.sourcePort ++ Bytes.ofWord16 header.destinationPort ++
    Bytes.ofWord16 (UInt16.ofNat length) ++ Bytes.ofWord16 checksum

/-- The UDP checksum of a payload.  Zero would mean that there is none, so all
ones, which add up to the same, stand for it. -/
def udpChecksum (header : DatagramHeader) (payload : Bytes) : UInt16 :=
  let length := udpHeaderSize + payload.length
  let checksum := Checksum.complement
    (pseudoHeader header.source header.destination length ++
      udpHeader header length 0 ++ payload)
  if checksum = 0 then 65535 else checksum

/-- The bytes of a datagram. -/
def bytes (header : DatagramHeader) (payload : Bytes) : Bytes :=
  let length := udpHeaderSize + payload.length
  let total := ipv4HeaderSize + length
  ipv4Header header total (Checksum.complement (ipv4Header header total 0)) ++
    udpHeader header length (udpChecksum header payload) ++ payload

/-- Write a datagram over the start of a buffer.  Gives the count of bytes
written and the buffer afterwards. -/
def encode (buffer : Bytes) (header : DatagramHeader) (payload : Bytes) :
    Except MessageFault (Nat × Bytes) :=
  let total := ipv4HeaderSize + udpHeaderSize + payload.length
  if buffer.length < total then
    .error (.bufferTooSmall total buffer.length)
  else if 65535 < total then
    .error (.malformedHeader .datagramTooLong)
  else
    .ok (total, bytes header payload ++ buffer.drop total)

/-- The UDP checksum of a segment is correct or absent. -/
def udpChecksumValid (source destination : IPv4) (segment : Bytes) : Bool :=
  segment.word16At 6 == 0 ||
    Checksum.isValid
      (pseudoHeader source destination (udpLength segment) ++ segment.take (udpLength segment))

/-- Both checksums of a datagram are correct. -/
def hasValidChecksums (datagram : Bytes) : Bool :=
  hasIPv4Header datagram && Checksum.isValid (datagram.take (headerLength datagram)) &&
    hasUdpHeader (segment datagram) &&
    udpChecksumValid (IPv4.readAt datagram 12) (IPv4.readAt datagram 16) (segment datagram)

end Datagram

end DhcpRelay
