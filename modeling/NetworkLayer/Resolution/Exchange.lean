import NetworkLayer.Arp
import NetworkLayer.Frame
import NetworkLayer.Neighbor

/-!
How questions and answers about link-layer addresses travel: ARP for IPv4 and Neighbor Discovery
for IPv6.
-/

namespace NetworkLayer

/-- What a received frame means to the resolution of addresses. -/
inductive ResolutionTraffic (family : Family)
  /-- The frame is about something else. -/
  | foreign
  /-- The frame calls for nothing. -/
  | ignored
  /-- A question about an own address, with the frame that answers it. -/
  | question (reply : Bytes)
  /-- An answer about an address. -/
  | answer (address : Address family) (mac : Mac)
deriving DecidableEq

namespace ResolutionTraffic

/-- The frame that asks who has a target. -/
def solicitation {family : Family} (mac : Mac) (target source : Address family) : Bytes :=
  match family with
  | .v4 => Frame.encode .broadcast mac .arp (ArpPacket.request mac source target).encode
  | .v6 =>
    let group := target.solicitedNode
    let message := (NeighborSolicitation.mk target (some mac)).encode
    Frame.encode group.multicastMac mac .ipv6
      (Icmpv6Message.encapsulate source group Neighbor.hopLimit message)

/-- What an ARP packet means to a station that owns the addresses selected by `owns`. -/
def ofArp (mac : Mac) (owns : Address .v4 → Bool) (packet : ArpPacket) :
    ResolutionTraffic .v4 :=
  match packet.operation with
  | .reply => answer packet.sender packet.senderMac
  | .request =>
    if owns packet.target then
      question (Frame.encode packet.senderMac mac .arp
        (ArpPacket.reply mac packet.target packet.senderMac packet.sender).encode)
    else ignored

/-- The frame that answers a solicitation; one from the unspecified address, which looks for
duplicates, is answered to all nodes. -/
def advertisement (mac sender : Mac) (source : Address .v6) (message : NeighborSolicitation) :
    Bytes :=
  let claim := NeighborAdvertisement.answer message.target mac
  let (claim, destination, destinationMac) :=
    -- Nobody can be reached at the unspecified address.
    if source = .unspecified then
      ({ claim with solicited := false }, Address.allNodesLink, Address.allNodesLink.multicastMac)
    -- Without the option the frame itself tells where the question came from.
    else (claim, source, message.link.getD sender)
  Frame.encode destinationMac mac .ipv6
    (Icmpv6Message.encapsulate message.target destination Neighbor.hopLimit claim.encode)

/-- What a packet from `sender` means to a station that owns the addresses selected by `owns`. -/
def ofPacket (mac : Mac) (owns : Address .v6 → Bool) (sender : Mac) (packet : Ipv6Packet) :
    ResolutionTraffic .v6 :=
  -- What is not about neighbors is left to the listeners.
  if packet.chain.upperProtocol ≠ Protocol.icmpv6.number then foreign
  else match Icmpv6Message.parse packet.upperPayload with
    | .error _ => foreign
    | .ok message =>
      match Icmpv6Type.ofCode? message.kind with
      | some .neighborSolicitation =>
        -- A message from beyond the link is not believed, but it is not passed on either.
        if packet.hopLimit ≠ Neighbor.hopLimit then ignored
        else match NeighborSolicitation.parse message.body with
          | .ok solicitation =>
            if owns solicitation.target then
              question (advertisement mac sender packet.source solicitation)
            else ignored
          | .error _ => ignored
      | some .neighborAdvertisement =>
        if packet.hopLimit ≠ Neighbor.hopLimit then ignored
        else match NeighborAdvertisement.parse message.body with
          | .ok claim => answer claim.target (claim.link.getD sender)
          | .error _ => ignored
      | _ => foreign

/-- What a frame means to a station that owns the addresses selected by `owns`. -/
def ofFrame {family : Family} (mac : Mac) (owns : Address family → Bool) (frame : Frame) :
    ResolutionTraffic family :=
  match family with
  | .v4 =>
    if frame.etherType ≠ EtherType.arp.code then foreign
    else match ArpPacket.parse frame.payload with
      | .ok packet => ofArp mac owns packet
      | .error _ => ignored
  | .v6 =>
    if frame.etherType ≠ EtherType.ipv6.code then foreign
    else match Ipv6Packet.parse frame.payload with
      | .ok packet => ofPacket mac owns frame.source packet
      | .error _ => foreign

end ResolutionTraffic

end NetworkLayer
