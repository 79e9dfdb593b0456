import NetworkLayer.Packet

/-! What a router does with a packet that names it as a segment to visit. -/

namespace NetworkLayer

/-- What a visit to a segment makes of a packet. -/
inductive SegmentVisit (family : Family)
  /-- The packet has arrived. -/
  | arrived
  /-- The packet cannot go on. -/
  | stuck
  /-- The packet is to go on to the next segment. -/
  | onward (packet : Packet family)

/-- Visits the segment that the first routing header of a packet has reached: the next one becomes
the destination, and before the last one the header goes if it asks for it. -/
def Ipv6Packet.visitSegment (packet : Ipv6Packet) : SegmentVisit .v6 :=
  match packet.routingHeader? with
  | none => .arrived
  | some header =>
    -- Other routing types are unknown, and their packets go no further.
    if !header.isSegmentList then .stuck
    else if header.segmentsLeft = 0 then .arrived
    else
      -- Segments are kept in reverse, so the count left is the index of the next one.
      let left := header.segmentsLeft - 1
      match header.segment? left.toNat with
      | none => .stuck
      | some next =>
        let moved := ((packet.withSegmentsLeft? left).getD packet).withDestination next
        -- The last segment is the final destination, which need not see the list.
        if left = 0 ∧ header.cleanup then
          .onward ((moved.withoutExtension? ExtensionHeader.routing).getD moved)
        else .onward moved

namespace Packet

/-- Visits the segment that a packet has reached; IPv4 has no segments. -/
def visitSegment {family : Family} (packet : Packet family) : SegmentVisit family :=
  match family, packet with
  | .v4, _ => .arrived
  | .v6, packet => Ipv6Packet.visitSegment packet

/-- More visits than one node can get from a packet: each of its routing headers, which are at
most its extension headers, lasts for 255 of them. -/
def visitLimit {family : Family} (packet : Packet family) : Nat :=
  match family, packet with
  | .v4, _ => 1
  | .v6, packet => 256 * ((Ipv6Packet.chain packet).headers.length + 1)

end Packet

end NetworkLayer
