import NetworkLayer.Address
import NetworkLayer.Checksum
import NetworkLayer.Error

/-! IPv4 packets: reading, editing in place, and building. -/

namespace NetworkLayer

/-- An IPv4 packet: its bytes, and how many of them are the header. -/
structure Ipv4Packet where
  bytes : Bytes
  headerLength : Nat
deriving DecidableEq

namespace Ipv4Packet

/-- Size of a header without options. -/
def leastHeader : Nat := 20

/-- Time to live of packets that start here. -/
def initialTtl : UInt8 := 64

/-- Reads a packet; bytes beyond the declared total length are padding and are dropped. -/
def parse (data : Bytes) : Except Error Ipv4Packet :=
  let first := (Bytes.byteAt data 0).toNat
  -- The low half of the first byte counts words of four bytes.
  let headerLength := first % 16 * 4
  let total := (Bytes.wordAt data 2).toNat
  if data.length < leastHeader then .error (.tooShort .ipv4Packet)
  -- The version comes first, since the other fields mean nothing without it.
  else if first / 16 ≠ 4 then .error (.version .v4)
  else if headerLength < leastHeader ∨ data.length < headerLength then
    .error .ipv4HeaderTruncated
  else if total < headerLength ∨ data.length < total then
    .error (.ipv4TotalLength total data.length)
  -- A frame may have padded the packet to its least size.
  else .ok ⟨data.take total, headerLength⟩

/-- Time to live. -/
def ttl (packet : Ipv4Packet) : UInt8 := Bytes.byteAt packet.bytes 8

/-- Number of the upper-layer protocol. -/
def protocol (packet : Ipv4Packet) : UInt8 := Bytes.byteAt packet.bytes 9

/-- The identification field. -/
def identification (packet : Ipv4Packet) : UInt16 := Bytes.wordAt packet.bytes 4

/-- The total length field. -/
def totalLength (packet : Ipv4Packet) : UInt16 := Bytes.wordAt packet.bytes 2

/-- Where the packet comes from. -/
def source (packet : Ipv4Packet) : Address .v4 := Address.readAt packet.bytes 12

/-- Where the packet goes. -/
def destination (packet : Ipv4Packet) : Address .v4 := Address.readAt packet.bytes 16

/-- The header bytes, options included. -/
def header (packet : Ipv4Packet) : Bytes := packet.bytes.take packet.headerLength

/-- What the packet carries. -/
def payload (packet : Ipv4Packet) : Bytes := packet.bytes.drop packet.headerLength

/-- Whether the header checksum holds. -/
def headerVerifies (packet : Ipv4Packet) : Bool := Checksum.verifies packet.header

/-- The packet with a fresh header checksum. -/
def refreshed (packet : Ipv4Packet) : Ipv4Packet :=
  { packet with bytes := Checksum.stamp packet.header 10 ++ packet.payload }

/-- The packet with a header field replaced and a fresh checksum. -/
def withField (packet : Ipv4Packet) (offset : Nat) (field : Bytes) : Ipv4Packet :=
  { packet with bytes := Bytes.patch packet.bytes offset field }.refreshed

/-- The packet with another time to live. -/
def withTtl (packet : Ipv4Packet) (ttl : UInt8) : Ipv4Packet :=
  packet.withField 8 [ttl]

/-- The packet one hop on, unless its time to live is used up. -/
def hopped? (packet : Ipv4Packet) : Option Ipv4Packet :=
  -- A packet that would leave with zero is not sent at all.
  if packet.ttl ≤ 1 then none else some (packet.withTtl (packet.ttl - 1))

/-- The packet from another source; transport checksums are left alone. -/
def withSource (packet : Ipv4Packet) (source : Address .v4) : Ipv4Packet :=
  packet.withField 12 source.octets

/-- The packet to another destination; transport checksums are left alone. -/
def withDestination (packet : Ipv4Packet) (destination : Address .v4) : Ipv4Packet :=
  packet.withField 16 destination.octets

/-- The packet with another payload and the total length that fits it, modulo 65536. -/
def withPayload (packet : Ipv4Packet) (payload : Bytes) : Ipv4Packet :=
  -- The total length is a header field, so the checksum follows it.
  let bytes := packet.header ++ payload
  { packet with bytes }.withField 2 (Bytes.ofWord (UInt16.ofNat bytes.length))

end Ipv4Packet

/-- What a new IPv4 packet is made of; it has no options. -/
structure Ipv4Draft where
  identification : UInt16 := 0
  dontFragment : Bool := true
  ttl : UInt8 := Ipv4Packet.initialTtl
  protocol : UInt8 := 0
  source : Address .v4 := .unspecified
  destination : Address .v4 := .unspecified
  payload : Bytes := []
deriving DecidableEq

namespace Ipv4Draft

/-- The header; a total length beyond 65535 wraps. -/
def header (draft : Ipv4Draft) : Bytes :=
  let total := UInt16.ofNat (Ipv4Packet.leastHeader + draft.payload.length)
  -- Version 4 and five words of header; the checksum is zero until it is stamped.
  let fields := [0x45, 0] ++ Bytes.ofWord total ++ Bytes.ofWord draft.identification ++
    [if draft.dontFragment then 0x40 else 0, 0, draft.ttl, draft.protocol, 0, 0] ++
    draft.source.octets ++ draft.destination.octets
  Checksum.stamp fields 10

/-- The bytes of the packet. -/
def encode (draft : Ipv4Draft) : Bytes :=
  draft.header ++ draft.payload

/-- The packet itself. -/
def toPacket (draft : Ipv4Draft) : Ipv4Packet :=
  ⟨draft.encode, Ipv4Packet.leastHeader⟩

end Ipv4Draft

end NetworkLayer
