import NetworkLayer.Icmp
import NetworkLayer.Icmpv6
import NetworkLayer.Ipv4

/-! Packets of either family, as far as routers and hosts treat them alike. -/

namespace NetworkLayer

/-- A packet of a family. -/
def Packet : Family → Type
  | .v4 => Ipv4Packet
  | .v6 => Ipv6Packet

namespace Packet

/-- Reads a packet of a family. -/
def parse (family : Family) (data : Bytes) : Except Error (Packet family) :=
  match family with
  | .v4 => Ipv4Packet.parse data
  | .v6 => Ipv6Packet.parse data

/-- The bytes of the packet. -/
def bytes {family : Family} (packet : Packet family) : Bytes :=
  match family, packet with
  | .v4, packet => Ipv4Packet.bytes packet
  | .v6, packet => Ipv6Packet.bytes packet

/-- Where the packet comes from. -/
def source {family : Family} (packet : Packet family) : Address family :=
  match family, packet with
  | .v4, packet => Ipv4Packet.source packet
  | .v6, packet => Ipv6Packet.source packet

/-- Where the packet goes. -/
def destination {family : Family} (packet : Packet family) : Address family :=
  match family, packet with
  | .v4, packet => Ipv4Packet.destination packet
  | .v6, packet => Ipv6Packet.destination packet

/-- The packet to another destination. -/
def withDestination {family : Family} (packet : Packet family) (address : Address family) :
    Packet family :=
  match family, packet with
  | .v4, packet => Ipv4Packet.withDestination packet address
  | .v6, packet => Ipv6Packet.withDestination packet address

/-- The packet one hop on, unless it may make no further hop. -/
def hopped? {family : Family} (packet : Packet family) : Option (Packet family) :=
  match family, packet with
  | .v4, packet => Ipv4Packet.hopped? packet
  | .v6, packet => Ipv6Packet.hopped? packet

/-- Number of the upper-layer protocol. -/
def upperProtocol {family : Family} (packet : Packet family) : UInt8 :=
  match family, packet with
  | .v4, packet => Ipv4Packet.protocol packet
  | .v6, packet => (Ipv6Packet.chain packet).upperProtocol

/-- What the packet carries for the upper layer. -/
def upperPayload {family : Family} (packet : Packet family) : Bytes :=
  match family, packet with
  | .v4, packet => Ipv4Packet.payload packet
  | .v6, packet => Ipv6Packet.upperPayload packet

/-- The number of the family's control message protocol. -/
def controlProtocol : Family → UInt8
  | .v4 => Protocol.icmp.number
  | .v6 => Protocol.icmpv6.number

/-- Whether a control message type of the family reports an error. -/
def isErrorType : Family → UInt8 → Bool
  | .v4, kind => IcmpType.isError kind
  | .v6, kind => Icmpv6Type.isError kind

/-- Whether the packet carries a control message. -/
def isControl {family : Family} (packet : Packet family) : Bool :=
  packet.upperProtocol == controlProtocol family

/-- Whether the packet reports an error, which never calls for another error. -/
def isControlError {family : Family} (packet : Packet family) : Bool :=
  -- Without a first byte there is no type, and so no error.
  packet.isControl && packet.upperPayload.head?.any (isErrorType family)

end Packet

end NetworkLayer
