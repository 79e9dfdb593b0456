import NetworkLayer.Metrics
import NetworkLayer.Packet

/-! Control messages of either family, as far as a node reads and writes them. -/

namespace NetworkLayer

/-- What the upper layer of a packet is to a node. -/
inductive ControlMessage
  /-- Not a control message. -/
  | none
  /-- A control message that is too short. -/
  | malformed
  | echoRequest
  | other
deriving DecidableEq, Repr

/-- An error that a node reports to the source of a packet. -/
inductive ControlError
  /-- The packet may make no further hop. -/
  | timeExceeded
  /-- Nothing on the node takes the packet's protocol. -/
  | unreachable
deriving DecidableEq, Repr

/-- The counter of reported errors. -/
def ControlError.counter : ControlError → Counter
  | timeExceeded => .timeExceededSent
  | unreachable => .unreachableSent

namespace Packet

/-- What the upper layer of a packet is. -/
def controlMessage {family : Family} (packet : Packet family) : ControlMessage :=
  if !packet.isControl then .none
  else match family, packet with
    | .v4, packet => match IcmpMessage.parse packet.upperPayload with
      | .ok message => if message.isEchoRequest then .echoRequest else .other
      | .error _ => .malformed
    | .v6, packet => match Icmpv6Message.parse packet.upperPayload with
      | .ok message => if message.isEchoRequest then .echoRequest else .other
      | .error _ => .malformed

/-- The IPv4 packet that carries a control message. -/
def carrying (source destination : Address .v4) (message : Bytes) : Packet .v4 :=
  Ipv4Draft.toPacket {
    protocol := Protocol.icmp.number
    source
    destination
    payload := message }

/-- The IPv6 packet that carries a control message, if it can be read back. -/
def carryingV6? (source destination : Address .v6) (message : Bytes) : Option (Packet .v6) :=
  (Ipv6Packet.parse
    (Icmpv6Message.encapsulate source destination Ipv6Packet.initialHopLimit message)).toOption

/-- The echo of a request, from a source back to where the request came from. -/
def echoReply? {family : Family} (request : Packet family) (source : Address family) :
    Option (Packet family) :=
  match family, request with
  | .v4, request => do
    let message ← (IcmpMessage.echoReply request.upperPayload).toOption
    return carrying source request.source message
  | .v6, request => do
    let message ← (Icmpv6Message.echoReply request.upperPayload).toOption
    carryingV6? source request.source message

/-- The report of an error about a packet, from a source back to where the packet came from. -/
def errorReport? {family : Family} (offending : Packet family) (error : ControlError)
    (source : Address family) : Option (Packet family) :=
  match family, offending with
  | .v4, offending =>
    let (kind, code) := match error with
      | .timeExceeded => (IcmpType.timeExceeded, IcmpMessage.ttlExceeded)
      | .unreachable => (.destinationUnreachable, IcmpMessage.protocolUnreachable)
    some (carrying source offending.source
      (IcmpMessage.error kind code (Ipv4Packet.header offending) (Ipv4Packet.payload offending)))
  | .v6, offending =>
    let (kind, code) := match error with
      | .timeExceeded => (Icmpv6Type.timeExceeded, Icmpv6Message.hopLimitExceeded)
      | .unreachable => (.destinationUnreachable, Icmpv6Message.addressUnreachable)
    -- Unlike IPv4, the quote is the packet from its very start.
    carryingV6? source offending.source (Icmpv6Message.error kind code offending.bytes)

end Packet

end NetworkLayer
