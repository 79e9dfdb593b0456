import Mathlib.Logic.Relation
import NetworkLayer.Proofs.SegmentBounds

/-!
The visits of a packet to segments of one and the same node. A visit may remove the routing header that it reads,
and the next one may have more segments left. Main statement: the number of routing headers and the segments left
of the first one go down lexicographically, so the visits end, whatever addresses the node has.
-/

namespace NetworkLayer

namespace Ipv6Packet

/-- How many routing headers a packet has. -/
def routingCount (packet : Ipv6Packet) : Nat :=
  packet.chain.headers.countP (·.kind == ExtensionHeader.routing)

/-- The segments left of the first routing header; without one there are none. -/
def firstLeft (packet : Ipv6Packet) : Nat :=
  packet.routingHeader?.elim 0 fun header => header.segmentsLeft.toNat

/-- The number of routing headers, and the segments left of the first one. -/
def segmentRank (packet : Ipv6Packet) : Nat × Nat :=
  (packet.routingCount, packet.firstLeft)

/-- The order of ranks: fewer routing headers, or as many and fewer segments left of the first one. -/
def Below : Nat × Nat → Nat × Nat → Prop :=
  Prod.Lex (· < ·) (· < ·)

/-- Ranks do not go down for ever. -/
theorem below_wellFounded : WellFounded Below :=
  (Prod.lex Nat.lt_wfRel Nat.lt_wfRel).wf

/-- Routing headers are counted by what the extension headers say. -/
theorem routingCount_eq (packet : Ipv6Packet) :
    packet.routingCount = packet.contents.countP (·.1 == ExtensionHeader.routing) := by
  -- What a header says starts with its kind.
  rw [contents, List.countP_map]
  rfl

section Visit

variable {packet : Ipv6Packet} {header : ExtensionHeader}
  (found : packet.extension? ExtensionHeader.routing = some header)
  (wellFormed : packet.WellFormed)
include found wellFormed

/-- On its way to the next segment a packet has as many segments left as were written. -/
theorem moved_firstLeft (left : UInt8) (next : Address .v6) :
    (packet.moved header left next).firstLeft = left.toNat := by
  -- The bound on the visits counts the same headers on both sides.
  have visits := moved_visitsLeft found wellFormed left next
  have split : (packet.moved header left next).visitsLeft =
      256 * packet.chain.headers.length + (packet.moved header left next).firstLeft := rfl
  omega

/-- Without its first routing header a packet has one routing header less. -/
theorem dropping_routingCount :
    (packet.dropping header).routingCount + 1 = packet.routingCount := by
  have member := routing_mem found
  have own : (header.kind == ExtensionHeader.routing) = true := beq_iff_eq.mpr (routing_kind found)
  -- All other headers keep what they say, and with it their kinds.
  have others : (packet.dropping header).routingCount =
      (packet.chain.headers.erase header).countP (·.kind == ExtensionHeader.routing) := by
    rw [routingCount_eq, dropping_contents wellFormed member, List.countP_map]
    rfl
  -- In any order there is the header, and the others.
  have counted := (List.perm_cons_erase member).countP_eq (·.kind == ExtensionHeader.routing)
  rw [List.countP_cons, if_pos own] at counted
  rw [others, routingCount, counted]

end Visit

/-- A visit that sends a packet on lowers its rank. -/
theorem visitSegment_below {packet onward : Ipv6Packet} (wellFormed : packet.WellFormed)
    (visited : packet.visitSegment = .onward onward) :
    Below onward.segmentRank packet.segmentRank := by
  -- A visit that has arrived or is stuck sends nothing on.
  rcases visitSegment_cases packet with
    arrived | stuck | ⟨header, next, found, -, -, remaining, result⟩
  · cases arrived.symm.trans visited
  · cases stuck.symm.trans visited
  generalize counted :
    (RoutingHeader.mk (Bytes.slice packet.bytes header.offset header.length)).segmentsLeft = count
      at remaining result
  -- The first counter of the packet is that of the header at hand.
  have before : packet.firstLeft = count.toNat := by
    rw [firstLeft, routingHeader?_eq found, ← counted]
    rfl
  have down := Bytes.toNat_sub_one remaining
  have fine := (moved_wellFormed found wellFormed (count - 1) next).1
  rcases result with kept | removed
  case inl =>
    -- The header stays, and its own counter goes down.
    obtain rfl := SegmentVisit.onward.inj (kept.symm.trans visited)
    have left := moved_firstLeft found wellFormed (count - 1) next
    apply Prod.Lex.right
    show (packet.moved header (count - 1) next).firstLeft < packet.firstLeft
    omega
  case inr =>
    -- The header goes, and whatever counter the next one has, there is one header less.
    obtain rfl := SegmentVisit.onward.inj (removed.symm.trans visited)
    have fewer : ((packet.moved header (count - 1) next).dropping header).routingCount + 1 =
        (packet.moved header (count - 1) next).routingCount := dropping_routingCount found fine
    have same : (packet.moved header (count - 1) next).routingCount = packet.routingCount := rfl
    apply Prod.Lex.left
    show ((packet.moved header (count - 1) next).dropping header).routingCount < packet.routingCount
    omega

end Ipv6Packet

namespace Station

/-- A packet that a router takes in leads it to take in another one: the next segment is its own, too. -/
structure Revisits (station : Station .v6) (packet onward : Ipv6Packet) : Prop where
  router : station.node.settings.forwarding = true
  visited : packet.visitSegment = .onward onward
  own : station.hasAddress onward.destination = true

section Revisits

variable {station : Station .v6} {packet last : Ipv6Packet}

/-- However often it is taken in again, a packet stays well formed. -/
theorem revisits_wellFormed (wellFormed : packet.WellFormed)
    (revisits : Relation.ReflTransGen station.Revisits packet last) : last.WellFormed := by
  induction revisits with
  | refl => exact wellFormed
  | tail _ revisit ih => exact (Ipv6Packet.visitSegment_onward ih revisit.visited).1

/-- A packet can be taken in again only so often. -/
theorem acc_revisits (wellFormed : packet.WellFormed) :
    Acc (fun onward packet => station.Revisits packet onward) packet := by
  -- The induction is on the rank, which is lower at each packet that is taken in next.
  generalize start : packet.segmentRank = rank
  induction rank using Ipv6Packet.below_wellFounded.induction generalizing packet with
  | _ rank ih =>
    constructor
    intro onward revisit
    have fine := (Ipv6Packet.visitSegment_onward wellFormed revisit.visited).1
    have lower := Ipv6Packet.visitSegment_below wellFormed revisit.visited
    rw [start] at lower
    exact ih onward.segmentRank lower fine rfl

end Revisits

/-- What a node makes of a packet visit by visit is all that it can make of it. -/
theorem TakesIn.unique {family : Family} {station : Station family} {policy : Policy family}
    {ingress : InterfaceId} {packet : Packet family} {one other : Reaction family}
    (first : station.TakesIn policy ingress packet one)
    (second : station.TakesIn policy ingress packet other) : one = other := by
  -- Each way to take a packet in excludes the others, by the setting, the visit or the next address.
  induction first with
  | host host =>
    cases second with
    | host => rfl
    | arrived router | stuck router | leaves router | stays router => cases host.symm.trans router
  | arrived router visited =>
    cases second with
    | host host => cases host.symm.trans router
    | arrived => rfl
    | stuck _ other | leaves _ other | stays _ other => cases visited.symm.trans other
  | stuck router visited =>
    cases second with
    | host host => cases host.symm.trans router
    | stuck => rfl
    | arrived _ other | leaves _ other | stays _ other => cases visited.symm.trans other
  | leaves router visited elsewhere =>
    cases second with
    | host host => cases host.symm.trans router
    | arrived _ other | stuck _ other => cases visited.symm.trans other
    | leaves _ other =>
      obtain rfl := SegmentVisit.onward.inj (visited.symm.trans other)
      rfl
    | stays _ other own =>
      obtain rfl := SegmentVisit.onward.inj (visited.symm.trans other)
      cases elsewhere.symm.trans own
  | stays router visited own _ ih =>
    cases second with
    | host host => cases host.symm.trans router
    | arrived _ other | stuck _ other => cases visited.symm.trans other
    | leaves _ other elsewhere =>
      obtain rfl := SegmentVisit.onward.inj (visited.symm.trans other)
      cases elsewhere.symm.trans own
    | stays _ other _ rest =>
      obtain rfl := SegmentVisit.onward.inj (visited.symm.trans other)
      exact ih rest

/-- The visits of a packet to the segments of a node end: every packet that is taken in again has a lower rank than
the one before, so there is no endless course of them, and what the limited visits make of the packet is the one
thing that unlimited ones make of it. -/
theorem own_visits_end (station : Station .v6) (policy : Policy .v6) (ingress : InterfaceId)
    {data : Bytes} {packet : Ipv6Packet} (read : Ipv6Packet.parse data = .ok packet) :
    (∀ before after, Relation.ReflTransGen station.Revisits packet before →
      station.Revisits before after → Ipv6Packet.Below after.segmentRank before.segmentRank) ∧
    Acc (fun onward packet => station.Revisits packet onward) packet ∧
    ∀ reaction, station.TakesIn policy ingress packet reaction ↔
      reaction = station.takeIn policy ingress (@Packet.visitLimit .v6 packet) packet := by
  -- The number of visits that the packet allows is enough, so the limited reaction is one that the node makes.
  have wellFormed := (Ipv6Packet.parse_cases read).1
  have enough : packet.visitsLeft < @Packet.visitLimit .v6 packet := packet.visitsLeft_lt
  have taken : station.TakesIn policy ingress packet (station.takeIn policy ingress _ packet) :=
    station.takeIn_takesIn policy ingress wellFormed enough
  refine ⟨?_, acc_revisits wellFormed, ?_⟩
  · -- The rank drops with each visit, whatever came before it.
    intro before after reached revisit
    exact Ipv6Packet.visitSegment_below (revisits_wellFormed wellFormed reached) revisit.visited
  · -- Since there is only one reaction, the limited one is it.
    intro reaction
    constructor
    · intro other
      exact other.unique taken
    · intro same
      rw [same]
      exact taken

/-- A packet to `2001:db8:1::1` with two routing headers, which list that address alone. The first one goes before
its last segment, and the second one has more segments left. -/
def nested : Ipv6Packet where
  bytes := [0x60, 0, 0, 0, 0, 64, 43, 64] ++
    [0x20, 0x01, 0x0D, 0xB8, 0, 1, 0, 0, 0, 0, 0, 0, 0, 0, 0, 9] ++
    [0x20, 0x01, 0x0D, 0xB8, 0, 1, 0, 0, 0, 0, 0, 0, 0, 0, 0, 1] ++
    [43, 2, 4, 1, 0, 0x80, 0, 0] ++
    [0x20, 0x01, 0x0D, 0xB8, 0, 1, 0, 0, 0, 0, 0, 0, 0, 0, 0, 1] ++
    [59, 4, 4, 2, 1, 0, 0, 0] ++
    [0x20, 0x01, 0x0D, 0xB8, 0, 1, 0, 0, 0, 0, 0, 0, 0, 0, 0, 1] ++
    [0x20, 0x01, 0x0D, 0xB8, 0, 1, 0, 0, 0, 0, 0, 0, 0, 0, 0, 1]
  chain := ⟨[⟨43, 40, 24, 6⟩, ⟨43, 64, 40, 40⟩], 59, 104⟩

/-- The packet without the first of its routing headers. -/
def unnested : Ipv6Packet where
  bytes := [0x60, 0, 0, 0, 0, 40, 43, 64] ++
    [0x20, 0x01, 0x0D, 0xB8, 0, 1, 0, 0, 0, 0, 0, 0, 0, 0, 0, 9] ++
    [0x20, 0x01, 0x0D, 0xB8, 0, 1, 0, 0, 0, 0, 0, 0, 0, 0, 0, 1] ++
    [59, 4, 4, 2, 1, 0, 0, 0] ++
    [0x20, 0x01, 0x0D, 0xB8, 0, 1, 0, 0, 0, 0, 0, 0, 0, 0, 0, 1] ++
    [0x20, 0x01, 0x0D, 0xB8, 0, 1, 0, 0, 0, 0, 0, 0, 0, 0, 0, 1]
  chain := ⟨[⟨43, 40, 40, 6⟩], 59, 80⟩

/-- A router that owns every listed segment takes the packet in again with more segments left than before, but with
one routing header less. -/
theorem nested_visits_end : Ipv6Packet.parse nested.bytes = .ok nested ∧
    Ipv6Packet.endpoint.Revisits nested unnested ∧ nested.segmentRank = (2, 1) ∧
    unnested.segmentRank = (1, 2) ∧ Ipv6Packet.Below unnested.segmentRank nested.segmentRank := by
  -- Parsing and the visit are evaluated, and the theorem gives the descent.
  have read : Ipv6Packet.parse nested.bytes = .ok nested := by cbv
  have visited : nested.visitSegment = .onward unnested := by cbv
  have revisit : Ipv6Packet.endpoint.Revisits nested unnested :=
    ⟨rfl, visited, by decide +kernel⟩
  have ends := own_visits_end Ipv6Packet.endpoint .plain 1 read
  exact ⟨read, revisit, by decide, by decide, ends.1 nested unnested .refl revisit⟩

end Station

end NetworkLayer
