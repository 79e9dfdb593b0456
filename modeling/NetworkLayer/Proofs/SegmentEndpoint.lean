import NetworkLayer.Proofs.Ipv6
import NetworkLayer.SegmentEndpoint

/-!
Visits to segments. Main statement: a visit that sends a packet on leaves it well formed with the same
upper layer, and there are fewer visits left to make.
-/

namespace NetworkLayer.Ipv6Packet

/-- A bound on the visits that a packet can still make: each extension header may be a routing
header, whose count of segments is one byte. -/
def visitsLeft (packet : Ipv6Packet) : Nat :=
  256 * packet.chain.headers.length +
    packet.routingHeader?.elim 0 fun header => header.segmentsLeft.toNat

/-- A packet leaves the visit limit unused in part. -/
theorem visitsLeft_lt (packet : Ipv6Packet) :
    packet.visitsLeft < @Packet.visitLimit .v6 packet := by
  -- The counter is a byte, so 256 is beyond it.
  have small : (packet.routingHeader?.elim 0 fun header => header.segmentsLeft.toNat) < 256 := by
    cases packet.routingHeader? with
    | none => decide
    | some header => exact header.segmentsLeft.toNat_lt
  simp only [visitsLeft, Packet.visitLimit]
  omega

/-- What passes a visit unchanged. -/
structure SameUpper (before after : Ipv6Packet) : Prop where
  protocol : after.chain.upperProtocol = before.chain.upperProtocol
  payload : after.upperPayload = before.upperPayload
  hopLimit : after.hopLimit = before.hopLimit

/-- The packet on its way to the next segment, with so many left behind that one. -/
def moved (packet : Ipv6Packet) (header : ExtensionHeader) (left : UInt8) (next : Address .v6) :
    Ipv6Packet :=
  (packet.withField (header.offset + 3) [left]).withDestination next

section Visit

variable {packet : Ipv6Packet} {header : ExtensionHeader}

/-- Without a routing header none is read. -/
theorem routingHeader?_eq_none (missing : packet.extension? ExtensionHeader.routing = none) :
    packet.routingHeader? = none := by
  simp only [routingHeader?, extensionBytes?, missing, Option.map_none]

variable
  (found : packet.extension? ExtensionHeader.routing = some header)
include found

/-- The first routing header is one of the chain. -/
theorem routing_mem : header ∈ packet.chain.headers :=
  List.mem_of_find?_eq_some found

/-- The first routing header is one. -/
theorem routing_kind : header.kind = ExtensionHeader.routing := by
  simpa only [beq_iff_eq] using List.find?_some found

/-- The first routing header has some bytes. -/
theorem routing_ne_nil (wellFormed : packet.WellFormed) :
    Bytes.slice packet.bytes header.offset header.length ≠ [] := by
  obtain ⟨-, long, -⟩ := wellFormed.header_within (routing_mem found)
  rw [← List.length_pos_iff, wellFormed.header_length (routing_mem found)]
  omega

/-- The first routing header is read from its place. -/
theorem routingHeader?_eq :
    packet.routingHeader? = some ⟨Bytes.slice packet.bytes header.offset header.length⟩ := by
  simp only [routingHeader?, extensionBytes?, found, Option.map_some]

/-- The count of segments is replaced in the first routing header. -/
theorem withSegmentsLeft?_eq (left : UInt8) :
    packet.withSegmentsLeft? left = some (packet.withField (header.offset + 3) [left]) := by
  simp only [withSegmentsLeft?, found, Option.map_some]

/-- The count of segments is the fourth byte of the routing header. -/
theorem segmentsLeft_eq (wellFormed : packet.WellFormed) :
    (RoutingHeader.mk (Bytes.slice packet.bytes header.offset header.length)).segmentsLeft =
      Bytes.byteAt packet.bytes (header.offset + 3) := by
  obtain ⟨-, long, -⟩ := wellFormed.header_within (routing_mem found)
  exact Bytes.byteAt_slice _ _ (by omega)

/-- A packet that moves on is well formed and carries the same upper layer. -/
theorem moved_wellFormed (wellFormed : packet.WellFormed) (left : UInt8) (next : Address .v6) :
    (packet.moved header left next).WellFormed ∧
      SameUpper packet (packet.moved header left next) := by
  -- The count and the destination are written in turn, and neither reaches the upper layer.
  have member := routing_mem found
  have counted := wellFormed.withByte member (show 2 ≤ 3 by decide) (by decide) left
  refine ⟨counted.withDestination next, rfl, ?_, ?_⟩
  · exact (withField_upperPayload counted (by simp [Family.bits, headerSize])).trans
      (withByte_upperPayload wellFormed member (by decide) left)
  · exact (withDestination_hopLimit counted next).trans
      (withByte_hopLimit wellFormed member (by decide) left)

/-- A packet that moves on is for the next segment. -/
theorem moved_destination (wellFormed : packet.WellFormed) (left : UInt8) (next : Address .v6) :
    (packet.moved header left next).destination = next :=
  withDestination_destination
    (wellFormed.withByte (routing_mem found) (show 2 ≤ 3 by decide) (by decide) left) next

/-- A packet that moves on has the same chain and the new count of segments. -/
theorem moved_visitsLeft (wellFormed : packet.WellFormed) (left : UInt8) (next : Address .v6) :
    (packet.moved header left next).visitsLeft =
      256 * packet.chain.headers.length + left.toNat := by
  have movedFound : (packet.moved header left next).extension? ExtensionHeader.routing =
      some header := found
  obtain ⟨above, long, ended, upper, -⟩ := wellFormed.header_within (routing_mem found)
  have size : (Bytes.patch packet.bytes (header.offset + 3) [left]).length = packet.bytes.length :=
    Bytes.patch_byte_length (by omega) left
  -- The destination stands in the fixed header, so it leaves the count alone.
  have count : Bytes.byteAt (packet.moved header left next).bytes (header.offset + 3) = left := by
    have apart : 24 + next.octets.length ≤ header.offset + 3 := by
      simp only [Address.octets_length, Family.bits]
      omega
    exact (Bytes.byteAt_patch_of_apart _ (by simp only [withField]; omega) (Or.inr apart)).trans
      (Bytes.byteAt_patch left (by omega))
  have movedWellFormed := (moved_wellFormed found wellFormed left next).1
  rw [visitsLeft, routingHeader?_eq movedFound]
  simp only [Option.elim_some]
  rw [segmentsLeft_eq movedFound movedWellFormed, count]
  rfl

/-- A visit to a segment behind which another one is listed sends the packet on to that one, without the
routing header if it is the last one and the header is to go. -/
theorem visitSegment_next {next : Address .v6} {routing : RoutingHeader}
    (read : RoutingHeader.mk (Bytes.slice packet.bytes header.offset header.length) = routing)
    (listed : routing.isSegmentList) (remaining : routing.segmentsLeft ≠ 0)
    (reached : routing.segment? (routing.segmentsLeft - 1).toNat = some next) :
    packet.visitSegment = if routing.segmentsLeft - 1 = 0 ∧ routing.cleanup then
        .onward ((packet.moved header (routing.segmentsLeft - 1) next).dropping header)
      else .onward (packet.moved header (routing.segmentsLeft - 1) next) := by
  have counted : ((packet.withSegmentsLeft? (routing.segmentsLeft - 1)).getD packet).withDestination
      next = packet.moved header (routing.segmentsLeft - 1) next := by
    rw [withSegmentsLeft?_eq found]
    rfl
  -- The chain is the same as before the move, so it is the same header that goes.
  have kept : (packet.moved header (routing.segmentsLeft - 1) next).extension?
      ExtensionHeader.routing = some header := found
  have removed : (packet.moved header (routing.segmentsLeft - 1) next).withoutExtension?
      ExtensionHeader.routing =
        some ((packet.moved header (routing.segmentsLeft - 1) next).dropping header) := by
    rw [withoutExtension?, kept, Option.map_some]
  rw [visitSegment, routingHeader?_eq found, read]
  simp only [listed, Bool.not_true, Bool.false_eq_true, if_false, if_neg remaining, reached, counted,
    removed, Option.getD_some]

end Visit

/-- A visit ends, or the packet moves on to the next segment, with or without its routing header. -/
theorem visitSegment_cases (packet : Ipv6Packet) :
    packet.visitSegment = .arrived ∨ packet.visitSegment = .stuck ∨
    ∃ header next, packet.extension? ExtensionHeader.routing = some header ∧
      let routing := RoutingHeader.mk (Bytes.slice packet.bytes header.offset header.length)
      routing.isSegmentList ∧ routing.segment? (routing.segmentsLeft - 1).toNat = some next ∧
      let count := routing.segmentsLeft
      count ≠ 0 ∧ (packet.visitSegment = .onward (packet.moved header (count - 1) next) ∨
        packet.visitSegment = .onward ((packet.moved header (count - 1) next).dropping header)) := by
  -- The cases follow the order in which the header is read: whether it is there, of the right kind, with
  -- segments left, and with room for the next one.
  cases found : packet.extension? ExtensionHeader.routing with
  | none => exact Or.inl (by rw [visitSegment, routingHeader?_eq_none found])
  | some header =>
    generalize routing :
      RoutingHeader.mk (Bytes.slice packet.bytes header.offset header.length) = segments
    have read : packet.routingHeader? = some segments := by rw [routingHeader?_eq found, routing]
    by_cases listed : segments.isSegmentList
    case neg =>
      refine Or.inr (Or.inl ?_)
      simp only [visitSegment, read, listed, Bool.not_false, if_true]
    by_cases ended : segments.segmentsLeft = 0
    case pos =>
      refine Or.inl ?_
      simp only [visitSegment, read, listed, Bool.not_true, Bool.false_eq_true, if_false, ended,
        if_true]
    cases reached : segments.segment? (segments.segmentsLeft - 1).toNat with
    | none =>
      refine Or.inr (Or.inl ?_)
      simp only [visitSegment, read, listed, Bool.not_true, Bool.false_eq_true, if_false,
        if_neg ended, reached]
    | some next =>
      have visit := visitSegment_next found routing listed ended reached
      refine Or.inr (Or.inr ⟨header, next, rfl, ?_⟩)
      rw [routing]
      refine ⟨listed, reached, ended, ?_⟩
      split at visit
      · exact Or.inr visit
      · exact Or.inl visit

/-- A visit that sends a packet on leaves it well formed, with fewer visits left to make. -/
theorem visitSegment_onward {packet onward : Ipv6Packet} (wellFormed : packet.WellFormed)
    (sent : packet.visitSegment = .onward onward) :
    onward.WellFormed ∧ SameUpper packet onward ∧ onward.visitsLeft < packet.visitsLeft := by
  -- Only a visit that goes on is left.
  rcases visitSegment_cases packet with
    arrived | stuck | ⟨header, next, found, -, -, remaining, result⟩
  · cases arrived.symm.trans sent
  · cases stuck.symm.trans sent
  -- The counter is named, since it stands in the packet before and after.
  generalize counted :
    (RoutingHeader.mk (Bytes.slice packet.bytes header.offset header.length)).segmentsLeft = count
      at remaining result
  obtain ⟨fine, same⟩ := moved_wellFormed found wellFormed (count - 1) next
  have visits := moved_visitsLeft found wellFormed (count - 1) next
  have before : packet.visitsLeft = 256 * packet.chain.headers.length + count.toNat := by
    rw [visitsLeft, routingHeader?_eq found, ← counted]
    rfl
  have counted := Bytes.toNat_sub_one remaining
  -- With its header the packet has one visit less left; without it, one header less.
  rcases result with onto | without
  · obtain rfl : packet.moved header (count - 1) next = onward := by
      injection onto.symm.trans sent
    exact ⟨fine, same, by omega⟩
  · obtain rfl : (packet.moved header (count - 1) next).dropping header = onward := by
      injection without.symm.trans sent
    have member : header ∈ (packet.moved header (count - 1) next).chain.headers := routing_mem found
    obtain ⟨droppedFine, protocol, payload, hopLimit⟩ := dropping_wellFormed fine member
    have shorter := dropping_count fine member
    refine ⟨droppedFine, ⟨protocol.trans same.protocol, payload.trans same.payload,
      hopLimit.trans same.hopLimit⟩, ?_⟩
    -- The header that went counted for more than the segments of any other one.
    have chain : (packet.moved header (count - 1) next).chain.headers.length =
        packet.chain.headers.length := rfl
    have rest := visitsLeft_lt ((packet.moved header (count - 1) next).dropping header)
    simp only [Packet.visitLimit] at rest
    rw [shorter, chain] at rest
    omega

end NetworkLayer.Ipv6Packet

namespace NetworkLayer.Packet

/-- A bound on the visits that a packet can still make; an IPv4 packet makes none. -/
def visitsLeft {family : Family} (packet : Packet family) : Nat :=
  match family, packet with
  | .v4, _ => 0
  | .v6, packet => Ipv6Packet.visitsLeft packet

/-- The visit limit is more than the visits that a packet can make. -/
theorem visitsLeft_lt {family : Family} (packet : Packet family) :
    packet.visitsLeft < packet.visitLimit := by
  cases family with
  | v4 => exact Nat.zero_lt_one
  | v6 => exact Ipv6Packet.visitsLeft_lt packet

end NetworkLayer.Packet
