import NetworkLayer.Address
import NetworkLayer.Checksum
import NetworkLayer.Error
import NetworkLayer.Protocol

/-! UDP datagrams and TCP segments: ports, and checksums over an IPv4 pseudo-header. -/

namespace NetworkLayer

namespace Transport

/-- The sum of the pseudo-header in front of a segment. -/
def pseudoSum (source destination : Address .v4) (protocol : UInt8) (length : Nat) : Nat :=
  Checksum.wordSum 0 (source.octets ++ destination.octets) + protocol.toNat + length

/-- The checksum of a segment with its pseudo-header. -/
def checksum (source destination : Address .v4) (protocol : UInt8) (segment : Bytes) : UInt16 :=
  Checksum.continued (pseudoSum source destination protocol segment.length) segment

/-- The segment with its checksum in the word at `offset`, which counts as zero before. -/
def stamp (source destination : Address .v4) (protocol : UInt8) (offset : Nat) (segment : Bytes)
    (replacing : UInt16 → UInt16) : Bytes :=
  let blank := Bytes.patch segment offset [0, 0]
  Bytes.patch blank offset
    (Bytes.ofWord (replacing (checksum source destination protocol blank)))

/-- The port that sends. -/
def sourcePort (segment : Bytes) : UInt16 := Bytes.wordAt segment 0

/-- The port that receives. -/
def destinationPort (segment : Bytes) : UInt16 := Bytes.wordAt segment 2

/-- The segment from another port; its checksum is left alone. -/
def withSourcePort (segment : Bytes) (port : UInt16) : Bytes :=
  Bytes.patch segment 0 (Bytes.ofWord port)

/-- The segment to another port; its checksum is left alone. -/
def withDestinationPort (segment : Bytes) (port : UInt16) : Bytes :=
  Bytes.patch segment 2 (Bytes.ofWord port)

end Transport

/-- A UDP datagram of at least a header. -/
structure UdpDatagram where
  bytes : Bytes
deriving DecidableEq

namespace UdpDatagram

/-- Size of the header. -/
def headerSize : Nat := 8

/-- Where the checksum stands. -/
def checksumOffset : Nat := 6

/-- Reads a datagram of at least a header. -/
def parse (bytes : Bytes) : Except Error UdpDatagram :=
  if bytes.length < headerSize then .error (.tooShort .udpDatagram) else .ok ⟨bytes⟩

/-- The checksum field; zero means that the datagram has no checksum. -/
def checksumField (datagram : UdpDatagram) : UInt16 := Bytes.wordAt datagram.bytes checksumOffset

/-- What follows the header. -/
def payload (datagram : UdpDatagram) : Bytes := datagram.bytes.drop headerSize

/-- The checksum that is sent: all ones in place of zero, which is reserved for none. -/
def nonzero (checksum : UInt16) : UInt16 := if checksum = 0 then 0xFFFF else checksum

/-- The datagram with a fresh checksum, unless it has none. -/
def refreshed (datagram : UdpDatagram) (source destination : Address .v4) : UdpDatagram :=
  -- A sender that left the checksum out does not get one on the way.
  if datagram.checksumField = 0 then datagram
  else ⟨Transport.stamp source destination Protocol.udp.number checksumOffset datagram.bytes
    nonzero⟩

/-- A new datagram; a length beyond 65535 wraps. -/
def encode (sourcePort destinationPort : UInt16) (payload : Bytes)
    (source destination : Address .v4) : Bytes :=
  let length := UInt16.ofNat (headerSize + payload.length)
  Transport.stamp source destination Protocol.udp.number checksumOffset
    (Bytes.ofWord sourcePort ++ Bytes.ofWord destinationPort ++ Bytes.ofWord length ++ [0, 0] ++
      payload)
    nonzero

end UdpDatagram

/-- A TCP segment of at least a header. -/
structure TcpSegment where
  bytes : Bytes
deriving DecidableEq

namespace TcpSegment

/-- Size of a header without options. -/
def leastHeader : Nat := 20

/-- Where the checksum stands. -/
def checksumOffset : Nat := 16

/-- Reads a segment of at least the header that it declares. -/
def parse (bytes : Bytes) : Except Error TcpSegment :=
  -- The high half of the byte counts words of four bytes.
  let headerLength := (Bytes.byteAt bytes 12).toNat / 16 * 4
  if bytes.length < leastHeader then .error (.tooShort .tcpSegment)
  else if headerLength < leastHeader then .error .tcpDataOffset
  else if bytes.length < headerLength then .error .tcpHeaderTruncated
  else .ok ⟨bytes⟩

/-- The flags byte. -/
def flags (segment : TcpSegment) : UInt8 := Bytes.byteAt segment.bytes 13

/-- The segment with a fresh checksum. -/
def refreshed (segment : TcpSegment) (source destination : Address .v4) : TcpSegment :=
  ⟨Transport.stamp source destination Protocol.tcp.number checksumOffset segment.bytes id⟩

/-- A new segment without options and with the widest window. -/
def encode (sourcePort destinationPort : UInt16) (sequence acknowledgment : UInt32)
    (flags : UInt8) (payload : Bytes) (source destination : Address .v4) : Bytes :=
  Transport.stamp source destination Protocol.tcp.number checksumOffset
    (Bytes.ofWord sourcePort ++ Bytes.ofWord destinationPort ++
      Bytes.ofValue 4 sequence.toNat ++ Bytes.ofValue 4 acknowledgment.toNat ++
      -- Five words of header, the flags, the window, and no urgent data.
      [0x50, flags, 0xFF, 0xFF, 0, 0, 0, 0] ++ payload)
    id

end TcpSegment

end NetworkLayer
