import NetworkLayer.Proofs.Forwarding
import NetworkLayer.Proofs.Ipv6.Contents
import NetworkLayer.Proofs.SegmentEndpoint
import NetworkLayer.Proofs.SegmentRouting

/-!
The journey of a packet along a list of segments. Main statement: it visits the segments in travel order,
each router sends it on to the next one and no further, and the last one takes what was sent at first.
-/

namespace NetworkLayer

namespace Ipv6Packet

/-- What a routing header with a list of segments says, with so many of them left. -/
def segmentContent (segments : List (Address .v6)) (left : Nat) (cleanup : Bool) : UInt8 × Bytes :=
  (ExtensionHeader.routing, (RoutingHeader.encode segments (UInt8.ofNat left) cleanup).drop 1)

/-- The only routing header carries a list of segments; other extension headers may stand around it. -/
structure CarriesSegments (packet : Ipv6Packet) (segments : List (Address .v6)) (left : Nat)
    (cleanup : Bool) (front back : List (UInt8 × Bytes)) : Prop where
  contents : packet.contents = front ++ segmentContent segments left cleanup :: back
  only : ∀ content ∈ front ++ back, content.1 ≠ ExtensionHeader.routing

/-- A packet whose extension headers are all of other kinds has no routing header. -/
theorem routingHeader?_eq_none_of_contents {packet : Ipv6Packet}
    (others : ∀ content ∈ packet.contents, content.1 ≠ ExtensionHeader.routing) :
    packet.routingHeader? = none := by
  refine routingHeader?_eq_none (List.find?_eq_none.mpr fun header member => ?_)
  have other := others (header.content packet.bytes) (List.mem_map_of_mem member)
  simpa [ExtensionHeader.content] using other

namespace CarriesSegments

variable {packet : Ipv6Packet} {segments : List (Address .v6)} {left : Nat} {cleanup : Bool}
  {front back : List (UInt8 × Bytes)} (carries : CarriesSegments packet segments left cleanup front back)
include carries

/-- No other routing header says anything. -/
theorem single : packet.contents.filter (·.1 == ExtensionHeader.routing) =
    [segmentContent segments left cleanup] := by
  -- In the parts around it no header is a routing header.
  have none (part : List (UInt8 × Bytes)) (among : part ⊆ front ++ back) :
      part.filter (·.1 == ExtensionHeader.routing) = [] :=
    List.filter_eq_nil_iff.mpr fun content member => by
      simpa using carries.only content (among member)
  rw [carries.contents, List.filter_append, none front (List.subset_append_left _ _),
    List.filter_cons_of_pos (by exact beq_self_eq_true _),
    none back (List.subset_append_right _ _), List.nil_append]

/-- The segment list is what is found first among the routing headers. -/
theorem found : packet.contents.find? (·.1 == ExtensionHeader.routing) =
    some (segmentContent segments left cleanup) := by
  rw [← List.head?_filter, carries.single, List.head?_cons]

/-- There is one routing header, and it reads as the list was written. -/
theorem reads (wellFormed : packet.WellFormed) :
    ∃ header, packet.extension? ExtensionHeader.routing = some header ∧
      (∀ other ∈ packet.chain.headers, other.kind = ExtensionHeader.routing → other = header) ∧
      let read := RoutingHeader.mk (Bytes.slice packet.bytes header.offset header.length)
      read.isSegmentList ∧ read.segmentsLeft = UInt8.ofNat left ∧ read.cleanup = cleanup ∧
      ∀ index, read.segment? index =
        (RoutingHeader.mk (RoutingHeader.encode segments (UInt8.ofNat left) cleanup)).segment? index := by
  obtain ⟨header, there, content⟩ := extension?_of_contents carries.found
  refine ⟨header, there, fun other member kind => ?_, ?_⟩
  · -- Contents and headers go together, and only one content is of the kind.
    have single := carries.single
    rw [Ipv6Packet.contents, List.filter_map] at single
    obtain ⟨one, alone, -⟩ := List.map_eq_singleton_iff.mp single
    have unique {some : ExtensionHeader} (member : some ∈ packet.chain.headers)
        (kind : some.kind = ExtensionHeader.routing) : some = one := by
      refine List.mem_singleton.mp (alone ▸ List.mem_filter.mpr ⟨member, ?_⟩)
      simpa only [Function.comp_apply, ExtensionHeader.content, beq_iff_eq] using kind
    exact (unique member kind).trans (unique (routing_mem there) (routing_kind there)).symm
  · have some := routing_ne_nil there wellFormed
    let written : RoutingHeader := ⟨RoutingHeader.encode segments (UInt8.ofNat left) cleanup⟩
    have any : written.bytes ≠ [] := List.cons_ne_nil _ _
    -- Only the announcement may differ from what was written.
    have same : (RoutingHeader.mk
        (Bytes.slice packet.bytes header.offset header.length)).bytes.drop 1 =
        written.bytes.drop 1 := content
    exact ⟨(RoutingHeader.isSegmentList_of_drop same some any).trans
        (RoutingHeader.encode_isSegmentList ..),
      RoutingHeader.segmentsLeft_of_drop same,
      (RoutingHeader.cleanup_of_drop same).trans (RoutingHeader.encode_cleanup ..),
      RoutingHeader.segment?_of_drop same some any⟩

/-- The count of segments that are left reads back. -/
theorem segmentsLeft (wellFormed : packet.WellFormed) :
    packet.routingHeader?.map (·.segmentsLeft) = some (UInt8.ofNat left) := by
  obtain ⟨header, there, -, -, count, -⟩ := carries.reads wellFormed
  rw [routingHeader?_eq there, Option.map_some, count]

/-- The count of segments that are left reads back as the number that it is. -/
theorem segmentsLeft_toNat (wellFormed : packet.WellFormed) (small : left < 256) :
    packet.routingHeader?.map (·.segmentsLeft.toNat) = some left := by
  have count := congrArg (Option.map UInt8.toNat) (carries.segmentsLeft wellFormed)
  rwa [Option.map_map, Option.map_some, UInt8.toNat_ofNat_of_lt' small] at count

/-- Where no segment is left the packet has arrived. -/
theorem visit_arrived (wellFormed : packet.WellFormed) (ended : left = 0) :
    packet.visitSegment = .arrived := by
  obtain ⟨header, there, -, listed, count, -⟩ := carries.reads wellFormed
  rw [visitSegment, routingHeader?_eq there]
  simp only [listed, count, Bool.not_true, Bool.false_eq_true, if_false]
  exact if_pos (congrArg UInt8.ofNat ended)

/-- Another count of segments changes nothing else of what the extension headers say. -/
theorem recounted (rest : Nat) : recounted (UInt8.ofNat rest) packet.contents =
    front ++ segmentContent segments rest cleanup :: back := by
  -- The count is written into routing headers only, of which there is one.
  have around (part : List (UInt8 × Bytes)) (among : part ⊆ front ++ back) :=
    recounted_of_missing (UInt8.ofNat rest) fun content member => carries.only content (among member)
  have routing : Ipv6Packet.recounted (UInt8.ofNat rest) [segmentContent segments left cleanup] =
      [segmentContent segments rest cleanup] := rfl
  rw [carries.contents, ← List.singleton_append, recounted_append, recounted_append, routing,
    around front (List.subset_append_left _ _), around back (List.subset_append_right _ _),
    List.singleton_append]

end CarriesSegments

/-- The packet with another count of segments for another destination carries the same list. -/
theorem CarriesSegments.moved {packet : Ipv6Packet} {segments : List (Address .v6)} {left : Nat}
    {cleanup : Bool} {front back : List (UInt8 × Bytes)}
    (carries : CarriesSegments packet segments left cleanup front back)
    (wellFormed : packet.WellFormed) {header : ExtensionHeader}
    (there : packet.extension? ExtensionHeader.routing = some header)
    (only : ∀ other ∈ packet.chain.headers, other.kind = ExtensionHeader.routing → other = header)
    (rest : Nat) (next : Address .v6) :
    CarriesSegments (packet.moved header (UInt8.ofNat rest) next) segments rest cleanup front back := by
  have member := routing_mem there
  have counted := wellFormed.withByte member (show 2 ≤ 3 by decide) (by decide) (UInt8.ofNat rest)
  refine ⟨?_, carries.only⟩
  -- The destination stands in the fixed header.
  rw [Ipv6Packet.moved, withDestination, withField_contents counted
    (by simp [Family.bits, headerSize]), recount_contents wellFormed member (routing_kind there) only,
    carries.recounted]

/-- The list goes with the routing header. -/
theorem CarriesSegments.dropped {packet : Ipv6Packet} {segments : List (Address .v6)}
    {left : Nat} {cleanup : Bool} {front back : List (UInt8 × Bytes)}
    (carries : CarriesSegments packet segments left cleanup front back)
    (wellFormed : packet.WellFormed) {header : ExtensionHeader}
    (there : packet.extension? ExtensionHeader.routing = some header) :
    (packet.dropping header).contents = front ++ back := by
  -- No header in front is a routing header, so the list is the one that goes.
  have foreign : ∀ content ∈ front, ¬ (content.1 == ExtensionHeader.routing) = true := by
    intro content member
    simpa using carries.only content (List.mem_append_left _ member)
  have removed : packet.withoutExtension? ExtensionHeader.routing = some (packet.dropping header) := by
    rw [withoutExtension?, there, Option.map_some]
  rw [withoutExtension?_contents wellFormed removed, carries.contents,
    List.eraseP_append_right _ foreign, List.eraseP_cons_of_pos (by exact beq_self_eq_true _)]

/-- The next segment becomes the destination, and the header goes with the last one if it is to. -/
theorem CarriesSegments.visit_onward {packet : Ipv6Packet} {segments : List (Address .v6)}
    {cleanup : Bool} {front back : List (UInt8 × Bytes)} {index : Nat}
    (carries : CarriesSegments packet segments (segments.length - 1 - index) cleanup front back)
    (wellFormed : packet.WellFormed) (more : index + 1 < segments.length)
    (short : segments.length ≤ 127) :
    ∃ onward : Ipv6Packet, packet.visitSegment = .onward onward ∧ onward.WellFormed ∧
      SameUpper packet onward ∧ onward.destination = segments[index + 1] ∧
      if cleanup ∧ index + 2 = segments.length then onward.contents = front ++ back
      else CarriesSegments onward segments (segments.length - 1 - (index + 1)) cleanup front back := by
  -- What the header says is read off the list that the packet carries.
  obtain ⟨header, there, only, listed, count, flag, reaches⟩ := carries.reads wellFormed
  have reached := (reaches (segments.length - 1 - (index + 1))).trans
    (RoutingHeader.encode_segment? segments _ cleanup more)
  -- The count on the wire is a byte, and the list is short enough for it.
  generalize remaining : segments.length - 1 - (index + 1) = rest at reached ⊢
  have before : segments.length - 1 - index = rest + 1 := by omega
  have positive : UInt8.ofNat (rest + 1) ≠ 0 := by
    intro zero
    have value : (UInt8.ofNat (rest + 1)).toNat = rest + 1 :=
      UInt8.toNat_ofNat_of_lt' (show rest + 1 < 256 by omega)
    rw [zero, UInt8.toNat_zero] at value
    omega
  have down : UInt8.ofNat (rest + 1) - 1 = UInt8.ofNat rest := by
    rw [UInt8.ofNat_add]
    exact UInt8.add_sub_cancel ..
  have small : (UInt8.ofNat rest).toNat = rest :=
    UInt8.toNat_ofNat_of_lt' (show rest < 256 by omega)
  have last : UInt8.ofNat rest = 0 ↔ index + 2 = segments.length := by
    rw [← UInt8.toNat_inj, small, UInt8.toNat_zero]
    omega
  -- With these numbers the visit is known, and only the flag is left to decide about the header.
  have visit := visitSegment_next there rfl listed (by rw [count, before]; exact positive)
    (by rw [count, before, down, small]; exact reached)
  rw [count, before, down, flag] at visit
  obtain ⟨fine, same⟩ := moved_wellFormed there wellFormed (UInt8.ofNat rest) segments[index + 1]
  have carried := carries.moved wellFormed there only rest segments[index + 1]
  have goal := moved_destination there wellFormed (UInt8.ofNat rest) segments[index + 1]
  have member : header ∈
      (packet.moved header (UInt8.ofNat rest) segments[index + 1]).chain.headers := routing_mem there
  -- The header goes at the last segment, if it is to be cleaned up.
  by_cases strip : cleanup ∧ index + 2 = segments.length
  · rw [if_pos ⟨last.mpr strip.2, strip.1⟩] at visit
    obtain ⟨shorter, protocol, payload, hopLimit⟩ := dropping_wellFormed fine member
    refine ⟨_, visit, shorter, ⟨protocol.trans same.protocol, payload.trans same.payload,
      hopLimit.trans same.hopLimit⟩, (dropping_destination fine member).trans goal, ?_⟩
    rw [if_pos strip]
    exact carried.dropped fine there
  · rw [if_neg fun stripped => strip ⟨stripped.2, last.mp stripped.1⟩] at visit
    refine ⟨_, visit, fine, same, goal, ?_⟩
    rw [if_neg strip]
    exact carried

/-- A new hop limit leaves the list alone. -/
theorem CarriesSegments.withHopLimit {packet : Ipv6Packet} {segments : List (Address .v6)}
    {left : Nat} {cleanup : Bool} {front back : List (UInt8 × Bytes)}
    (carries : CarriesSegments packet segments left cleanup front back)
    (wellFormed : packet.WellFormed) (hopLimit : UInt8) :
    CarriesSegments (packet.withHopLimit hopLimit) segments left cleanup front back :=
  ⟨(withField_contents wellFormed (by simp [headerSize])).trans carries.contents, carries.only⟩

/-- A packet that has reached the segment of an index, next to the packet that set out. -/
structure AtSegment (original : Ipv6Packet) (segments : List (Address .v6)) (cleanup : Bool)
    (front back : List (UInt8 × Bytes)) (index : Nat) (packet : Ipv6Packet) : Prop where
  wellFormed : packet.WellFormed
  destination : segments[index]? = some packet.destination
  /-- Every segment behind it took one hop. -/
  hops : packet.hopLimit.toNat + index = original.hopLimit.toNat
  protocol : packet.chain.upperProtocol = original.chain.upperProtocol
  payload : packet.upperPayload = original.upperPayload
  /-- The list is there up to the last segment, and there unless it is to go. -/
  listed : ¬ (cleanup ∧ 0 < index ∧ index + 1 = segments.length) →
    CarriesSegments packet segments (segments.length - 1 - index) cleanup front back ∧
      packet.routingHeader?.map (·.segmentsLeft.toNat) = some (segments.length - 1 - index)
  /-- What is left of the chain is what stood around the list. -/
  stripped : cleanup ∧ 0 < index ∧ index + 1 = segments.length →
    packet.contents = front ++ back ∧ packet.routingHeader? = none

namespace AtSegment

variable {original packet : Ipv6Packet} {segments : List (Address .v6)} {cleanup : Bool}
  {front back : List (UInt8 × Bytes)} {index : Nat}

/-- A packet for the first segment starts there. -/
theorem start (wellFormed : original.WellFormed)
    (carries : CarriesSegments original segments (segments.length - 1) cleanup front back)
    (short : segments.length ≤ 127) (first : segments[0]? = some original.destination) :
    AtSegment original segments cleanup front back 0 original where
  wellFormed := wellFormed
  destination := first
  hops := rfl
  protocol := rfl
  payload := rfl
  listed _ := ⟨carries, carries.segmentsLeft_toNat wellFormed (by omega)⟩
  stripped gone := absurd gone.2.1 (Nat.lt_irrefl 0)

variable (reached : AtSegment original segments cleanup front back index packet)
include reached

/-- At the last segment the packet has arrived, with or without the list. -/
theorem visit_last (last : index + 1 = segments.length) : packet.visitSegment = .arrived := by
  by_cases gone : cleanup ∧ 0 < index ∧ index + 1 = segments.length
  · rw [visitSegment, (reached.stripped gone).2]
  · exact (reached.listed gone).1.visit_arrived reached.wellFormed (by omega)

/-- Before the last segment the packet goes on, and a hop later it is at the next one. -/
theorem visit_next (more : index + 1 < segments.length) (short : segments.length ≤ 127)
    (lives : segments.length < original.hopLimit.toNat) :
    ∃ onward : Ipv6Packet, packet.visitSegment = .onward onward ∧
      onward.destination = segments[index + 1] ∧ 1 < onward.hopLimit ∧
      AtSegment original segments cleanup front back (index + 1)
        (onward.withHopLimit (onward.hopLimit - 1)) := by
  have there : ¬ (cleanup ∧ 0 < index ∧ index + 1 = segments.length) := by omega
  -- Short of the last segment the list is still there, so the visit goes on.
  obtain ⟨onward, visit, fine, same, goal, list⟩ :=
    (reached.listed there).1.visit_onward reached.wellFormed more short
  have hops := reached.hops
  rw [← same.hopLimit] at hops
  have spare : 1 < onward.hopLimit := by
    rw [UInt8.lt_iff_toNat_lt, UInt8.toNat_one]
    omega
  -- Each part of the state is that of the packet that was sent on, one hop later.
  refine ⟨onward, visit, goal, spare, fine.withHopLimit _, ?_, ?_, ?_, ?_, ?_, ?_⟩
  · rw [withHopLimit_destination fine, goal, List.getElem?_eq_getElem more]
  · rw [withHopLimit_hopLimit fine, UInt8.toNat_sub_of_le _ _ (UInt8.le_of_lt spare),
      UInt8.toNat_one]
    omega
  · exact same.protocol.trans reached.protocol
  · exact (withField_upperPayload fine (by simp [headerSize])).trans
      (same.payload.trans reached.payload)
  · -- With the list kept, its counter is one less.
    intro kept
    rw [if_neg fun gone => kept ⟨gone.1, Nat.succ_pos index, gone.2⟩] at list
    have carries := list.withHopLimit fine (onward.hopLimit - 1)
    exact ⟨carries, carries.segmentsLeft_toNat (fine.withHopLimit _) (by omega)⟩
  · -- With the list gone, no routing header is left among the contents.
    intro gone
    rw [if_pos ⟨gone.1, gone.2.2⟩] at list
    have contents : (onward.withHopLimit (onward.hopLimit - 1)).contents = front ++ back :=
      (withField_contents fine (by simp [headerSize])).trans list
    have only := (reached.listed there).1.only
    exact ⟨contents, routingHeader?_eq_none_of_contents (contents ▸ only)⟩

end AtSegment

end Ipv6Packet

namespace Station

section Own

variable {family : Family} {station : Station family} {data : Bytes} {packet : Packet family}
  (read : Packet.parse family data = .ok packet)
  (own : station.hasAddress packet.destination = true) (now : Nat) (ingress : InterfaceId)
include read own

/-- Under plain routing a node takes in what it receives for itself. -/
theorem receive_own : ∃ visits, (station.receive .plain now ingress data).1 =
    (station.takeIn .plain ingress (visits + 1) packet).after
      [.received (station.interfaces.at ingress).name data.length] := by
  have verdict : (Policy.plain : Policy family).classify (station.hasAddress packet.destination)
      station.node.settings.forwarding = .deliver := by
    rw [own]
    rfl
  -- The limit leaves room for one visit at least.
  obtain ⟨visits, limit⟩ :=
    Nat.exists_eq_add_one.mpr (Nat.lt_of_le_of_lt (Nat.zero_le _) packet.visitsLeft_lt)
  have taken : station.dispatch .plain ingress packet =
      station.takeIn .plain ingress (visits + 1) packet := by
    rw [dispatch, verdict, limit]
  refine ⟨visits, ?_⟩
  rw [receive, read, ← taken]
  rfl

variable (router : station.node.settings.forwarding = true)
include router

/-- A router delivers a packet for itself that has arrived. -/
theorem receive_arrived (visit : packet.visitSegment = .arrived) :
    (station.receive .plain now ingress data).1 = (station.deliver .plain ingress packet).after
      [.received (station.interfaces.at ingress).name data.length] := by
  obtain ⟨visits, received⟩ := receive_own read own now ingress
  rw [received, takeIn, if_pos router, visit]

/-- A router forwards a packet for itself whose next segment is elsewhere. -/
theorem receive_onward {onward : Packet family} (visit : packet.visitSegment = .onward onward)
    (elsewhere : station.hasAddress onward.destination = false) :
    (station.receive .plain now ingress data).1 = (station.forward .plain onward).after
      [.received (station.interfaces.at ingress).name data.length] := by
  obtain ⟨visits, received⟩ := receive_own read own now ingress
  rw [received, takeIn, if_pos router, visit]
  simp only [elsewhere, Bool.false_eq_true, if_false]

end Own

/-- The upper layer gets a packet of a protocol that it takes, unless the node reads that one itself. -/
theorem deliver_handled {family : Family} (station : Station family) (policy : Policy family)
    (ingress : InterfaceId) {packet : Packet family} (other : packet.isControl = false)
    (handled : station.node.handled.contains packet.upperProtocol = true) :
    (station.deliver policy ingress packet).delivered = some packet := by
  have message : packet.controlMessage = .none := by
    simp only [Packet.controlMessage.eq_def, other, Bool.not_false, if_true]
  rw [deliver, message]
  simp only [handled, if_true, Reaction.after_delivered]

/-- Routers along a list of segments: each owns its own segment and no other one, and it has a route to
the next one. -/
structure AlongSegments (nodes : Nat → Station .v6) (segments : List (Address .v6)) : Prop where
  router : ∀ index < segments.length, (nodes index).node.settings.forwarding = true
  owns : ∀ index < segments.length, ∀ other (inside : other < segments.length),
    (nodes index).hasAddress segments[other] = true ↔ other = index
  routed : ∀ index (more : index + 1 < segments.length),
    ((nodes index).routeFor segments[index + 1]).isSome

/-- What a node of a row makes of data, at its own time and interface. -/
def reactionOf (nodes : Nat → Station .v6) (now : Nat → Nat) (ingress : Nat → InterfaceId)
    (index : Nat) (data : Bytes) : Reaction .v6 :=
  ((nodes index).receive .plain (now index) (ingress index) data).1

/-- What each node of a row receives if it is handed what the one before it sends. -/
def passedOn (nodes : Nat → Station .v6) (now : Nat → Nat) (ingress : Nat → InterfaceId)
    (data : Bytes) : Nat → Option Bytes
  | 0 => some data
  | index + 1 => do
    let received ← passedOn nodes now ingress data index
    let sending ← (reactionOf nodes now ingress index received).sendings.head?
    return sending.packet

section Row

variable {nodes : Nat → Station .v6} {segments : List (Address .v6)}
  (row : AlongSegments nodes segments) (short : segments.length ≤ 127)
  (unicast : ∀ segment ∈ segments, segment.isMulticast = false) {original : Ipv6Packet}
  (lives : segments.length < original.hopLimit.toNat) {cleanup : Bool}
  {front back : List (UInt8 × Bytes)} (now : Nat → Nat) (ingress : Nat → InterfaceId)
include row

/-- A packet at a segment is at the node that owns it. -/
theorem AlongSegments.own {packet : Ipv6Packet} {index : Nat}
    (reached : original.AtSegment segments cleanup front back index packet) :
    index < segments.length ∧ (nodes index).hasAddress packet.destination = true := by
  obtain ⟨inside, there⟩ := List.getElem?_eq_some_iff.mp reached.destination
  exact ⟨inside, there ▸ (row.owns index inside index inside).mpr rfl⟩

/-- At the last segment a node delivers the packet. -/
theorem AlongSegments.delivers {data : Bytes} {packet : Ipv6Packet} {index : Nat}
    (read : Ipv6Packet.parse data = .ok packet)
    (reached : original.AtSegment segments cleanup front back index packet)
    (last : index + 1 = segments.length) :
    reactionOf nodes now ingress index data =
      ((nodes index).deliver .plain (ingress index) packet).after
        [.received ((nodes index).interfaces.at (ingress index)).name data.length] := by
  obtain ⟨inside, own⟩ := row.own reached
  have parsed : Packet.parse .v6 data = .ok packet := read
  exact receive_arrived parsed own (now index) (ingress index) (row.router index inside)
    (reached.visit_last last)

include short unicast lives

/-- Before the last segment a node sends the packet on to the next one, and does nothing else. -/
theorem AlongSegments.sends {data : Bytes} {packet : Ipv6Packet} {index : Nat}
    (read : Ipv6Packet.parse data = .ok packet)
    (reached : original.AtSegment segments cleanup front back index packet)
    (more : index + 1 < segments.length) :
    ∃ route sent, (nodes index).routeFor segments[index + 1] = some route ∧
      original.AtSegment segments cleanup front back (index + 1) sent ∧
      (reactionOf nodes now ingress index data).sendings =
        [⟨route.interface, sent.bytes, route.nextHopFor segments[index + 1]⟩] ∧
      (reactionOf nodes now ingress index data).delivered = none := by
  obtain ⟨inside, own⟩ := row.own reached
  -- The packet is visited, does not stay, and is handed to the route for its next segment.
  obtain ⟨onward, visit, goal, spare, next⟩ := reached.visit_next more short lives
  have elsewhere : (nodes index).hasAddress onward.destination = false := by
    rw [goal, ← Bool.not_eq_true, row.owns index inside (index + 1) more]
    exact Nat.succ_ne_self index
  have parsed : Packet.parse .v6 data = .ok packet := read
  have received : reactionOf nodes now ingress index data = _ :=
    receive_onward parsed own (now index) (ingress index) (row.router index inside) visit elsewhere
  have single : ¬ (onward.destination.isGroup = true) := by
    rw [goal, Address.isGroup, unicast _ (List.getElem_mem more)]
    exact Bool.false_ne_true
  have hopped : @Packet.hopped? .v6 onward = some (onward.withHopLimit (onward.hopLimit - 1)) :=
    if_neg (UInt8.not_le.mpr spare)
  obtain ⟨sendings, kept⟩ := (nodes index).forward_hopped .plain single hopped rfl
  obtain ⟨route, found⟩ := Option.isSome_iff_exists.mp (row.routed index more)
  -- One hop on, the packet is still for the segment that the route is for.
  have there : @Packet.destination .v6 (onward.withHopLimit (onward.hopLimit - 1)) =
      segments[index + 1] := by
    have listed := next.destination
    rw [List.getElem?_eq_getElem more, Option.some_inj] at listed
    exact listed.symm
  rw [there, sendRouted_some _ found] at sendings
  refine ⟨route, _, found, next, ?_, ?_⟩
  · rw [received, Reaction.after_sendings, sendings]
    rfl
  · rw [received, Reaction.after_delivered]
    exact kept

/-- Up to the last segment every node is handed a packet that has reached its segment. -/
theorem AlongSegments.arrives {data : Bytes} (read : Ipv6Packet.parse data = .ok original)
    (start : original.AtSegment segments cleanup front back 0 original) {index : Nat}
    (inside : index < segments.length) :
    ∃ received packet, passedOn nodes now ingress data index = some received ∧
      Ipv6Packet.parse received = .ok packet ∧
      original.AtSegment segments cleanup front back index packet := by
  -- Induction on the segments: what a router sends is what the next one is handed.
  induction index with
  | zero => exact ⟨data, original, rfl, read, start⟩
  | succ index ih =>
    obtain ⟨received, packet, passed, read, reached⟩ := ih (by omega)
    obtain ⟨route, sent, -, next, sendings, -⟩ :=
      row.sends short unicast lives now ingress read reached inside
    refine ⟨sent.bytes, sent, ?_, next.wellFormed.parse, next⟩
    rw [passedOn, passed, Option.bind_eq_bind, Option.bind_some, sendings]
    rfl

end Row

/-- A packet with a list of segments visits them in travel order: each router that is handed it sends one
packet on to the next segment, one hop later and with one segment less to go, and the last router delivers
what set out. -/
theorem segments_visited_in_order {nodes : Nat → Station .v6} {segments : List (Address .v6)}
    (row : AlongSegments nodes segments) (short : segments.length ≤ 127)
    (unicast : ∀ segment ∈ segments, segment.isMulticast = false)
    {data : Bytes} {packet : Ipv6Packet} (read : Ipv6Packet.parse data = .ok packet)
    (first : segments[0]? = some packet.destination)
    (lives : segments.length < packet.hopLimit.toNat) {cleanup : Bool}
    {front back : List (UInt8 × Bytes)}
    (carries : packet.CarriesSegments segments (segments.length - 1) cleanup front back)
    (now : Nat → Nat) (ingress : Nat → InterfaceId) (index : Nat) (inside : index < segments.length) :
    ∃ received reached, passedOn nodes now ingress data index = some received ∧
      Ipv6Packet.parse received = .ok reached ∧
      packet.AtSegment segments cleanup front back index reached ∧
      let reaction := reactionOf nodes now ingress index received
      (∀ more : index + 1 < segments.length, ∃ route sent,
        (nodes index).routeFor segments[index + 1] = some route ∧
        packet.AtSegment segments cleanup front back (index + 1) sent ∧
        reaction.sendings = [⟨route.interface, sent.bytes, route.nextHopFor segments[index + 1]⟩] ∧
        reaction.delivered = none) ∧
      (index + 1 = segments.length →
        reaction = ((nodes index).deliver .plain (ingress index) reached).after
          [.received ((nodes index).interfaces.at (ingress index)).name received.length] ∧
        (packet.chain.upperProtocol ≠ Protocol.icmpv6.number →
          (nodes index).node.handled.contains packet.chain.upperProtocol = true →
          reaction.delivered = some reached)) := by
  -- The packet starts at its first segment, and with each router it reaches the next.
  have wellFormed := (Ipv6Packet.parse_cases read).1
  obtain ⟨received, reached, passed, parsed, there⟩ := row.arrives short unicast lives now ingress
    read (.start wellFormed carries short first) inside
  refine ⟨received, reached, passed, parsed, there,
    fun more => row.sends short unicast lives now ingress parsed there more, fun last => ?_⟩
  have delivered := row.delivers now ingress parsed there last
  -- At the last segment nothing is left but the delivery, which goes to the upper layer.
  refine ⟨delivered, fun other handled => ?_⟩
  rw [← there.protocol] at other handled
  have plain : @Packet.isControl .v6 reached = false := beq_eq_false_iff_ne.mpr other
  rw [delivered, Reaction.after_delivered]
  exact deliver_handled _ .plain _ plain handled

/-- Three segments to visit. -/
def tour : List (Address .v6) := [.ofNat 0xFD01, .ofNat 0xFD02, .ofNat 0xFD03]

/-- A datagram along three segments, whose list is to go and has other headers around it. -/
def touring : Ipv6Draft where
  nextHeader := Protocol.udp.number
  hopLimit := 9
  source := .ofNat 0xFD00
  destination := .ofNat 0xFD01
  extensions := [(ExtensionHeader.hopByHop, [0, 0, 1, 4, 0, 0, 0, 0]),
    (ExtensionHeader.routing, RoutingHeader.encode tour 2 true),
    (ExtensionHeader.destinationOptions, [0, 0, 1, 4, 9, 9, 9, 9])]
  payload := [1, 2, 3]

/-- A router that owns one of the segments and has a route to each of the others. -/
def touringRouter (index : Nat) : Station .v6 where
  node := {
    settings := { forwarding := true }
    loopback := 0
    attached := [1]
    table := ⟨tour.map fun segment => .configured (.host segment) none 1⟩
    handled := [Protocol.udp.number] }
  interfaces := ⟨[(0, .loopback), (1, .onLink 0 (tour[index]?.map (.unicast · 64)))]⟩

/-- The last of three routers delivers the datagram without the list and two hops later. -/
theorem tour_visited : ∃ packet, Ipv6Packet.parse touring.encode = .ok packet ∧
    AlongSegments touringRouter tour ∧ tour.length ≤ 127 ∧
    (∀ segment ∈ tour, segment.isMulticast = false) ∧ tour[0]? = some packet.destination ∧
    tour.length < packet.hopLimit.toNat ∧
    packet.CarriesSegments tour 2 true [(0, [0, 1, 4, 0, 0, 0, 0])] [(60, [0, 1, 4, 9, 9, 9, 9])] ∧
    ∃ received reached, passedOn touringRouter id (fun _ => 1) touring.encode 2 = some received ∧
      reached.destination = .ofNat 0xFD03 ∧ reached.hopLimit.toNat + 2 = 9 ∧
      reached.routingHeader? = none ∧ reached.upperPayload = [1, 2, 3] ∧
      (reactionOf touringRouter id (fun _ => 1) 2 received).delivered = some reached := by
  -- The draft is complete, so the packet that is built reads back with its header in place.
  have known : ∀ extension ∈ touring.extensions, ExtensionHeader.isKind extension.1 := by decide
  have complete : ∀ extension ∈ touring.extensions,
      Ipv6Draft.Complete extension.1 extension.2 := by decide +kernel
  obtain ⟨packet, read, -, destination, hopLimit, contents, -, protocol, payload⟩ :=
    touring.built_reads_back known complete (by decide) (by decide +kernel)
  -- Each router has a route for the next segment and owns its own.
  have routed : ∀ index < 2, ∀ segment ∈ tour[index + 1]?,
      ((touringRouter index).routeFor segment).isSome := by decide +kernel
  have row : AlongSegments touringRouter tour :=
    ⟨by decide +kernel, by decide +kernel, fun index more =>
      routed index (Nat.lt_of_succ_lt_succ more) _ (List.getElem?_eq_getElem more)⟩
  have unicast : ∀ segment ∈ tour, segment.isMulticast = false := by decide +kernel
  have first : tour[0]? = some packet.destination := destination ▸ rfl
  have lives : tour.length < packet.hopLimit.toNat := by
    rw [hopLimit]
    decide
  have carries : packet.CarriesSegments tour 2 true [(0, [0, 1, 4, 0, 0, 0, 0])]
      [(60, [0, 1, 4, 9, 9, 9, 9])] := ⟨contents.trans rfl, by decide⟩
  -- The third router is handed the packet at the last segment.
  obtain ⟨received, reached, passed, -, there, -, last⟩ := segments_visited_in_order row (by decide)
    unicast read first lives carries id (fun _ => 1) 2 (by decide)
  obtain ⟨-, delivered⟩ := last rfl
  have goal := there.destination
  -- There the header is gone, two hops have been made, and the datagram is delivered.
  refine ⟨packet, read, row, by decide, unicast, first, lives, carries, received, reached, passed,
    (Option.some_inj.mp goal).symm, ?_, (there.stripped (by decide)).2, there.payload.trans payload,
    delivered ?_ ?_⟩
  · rw [there.hops, hopLimit]
    rfl
  · rw [protocol]
    decide
  · rw [protocol]
    decide

end Station

end NetworkLayer
