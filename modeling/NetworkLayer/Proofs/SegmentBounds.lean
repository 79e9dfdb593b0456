import NetworkLayer.Proofs.Ipv6.Contents
import NetworkLayer.Proofs.Reception.Answers
import NetworkLayer.Proofs.SegmentRouting

/-!
The list that a segment routing header declares, and the room that the header has. Main statements: a router keeps
to the list exactly if the header has no room behind it for the segments that are said to be left, and a packet that
starts with no more segments left than are listed only ever goes to listed ones.
-/

namespace NetworkLayer

namespace RoutingHeader

variable {header : RoutingHeader}

/-- A header has a segment at each index that it has room for. -/
theorem segment?_isSome_iff (listed : header.isSegmentList) {index : Nat} :
    (header.segment? index).isSome ↔ index < header.segmentCount := by
  -- The size of the header is announced in bytes, and the count of its segments is what fits behind the fixed
  -- part.
  rw [isSegmentList, Bool.and_eq_true, decide_eq_true_eq, fixedSize] at listed
  have room : fixedSize + index * 16 + 16 ≤ header.bytes.length ↔ index < header.segmentCount := by
    simp only [segmentCount, fixedSize]
    omega
  simp only [segment?]
  split
  · simpa using room.mp ‹_›
  · simpa using mt room.mpr ‹_›

/-- At most as many segments are left as the header lists, if it lists segments. -/
def WithinList (header : RoutingHeader) : Prop :=
  header.isSegmentList → header.segmentsLeft.toNat ≤ header.lastEntry.toNat + 1

/-- The announcement does not count for what is left of the list. -/
theorem withinList_of_drop {other : RoutingHeader} (same : header.bytes.drop 1 = other.bytes.drop 1)
    (some : header.bytes ≠ []) (any : other.bytes ≠ []) : header.WithinList ↔ other.WithinList := by
  rw [WithinList, WithinList, isSegmentList_of_drop same some any, segmentsLeft_of_drop same,
    lastEntry_of_drop same]

/-- The list goes on being long enough with fewer segments left. -/
theorem WithinList.recounted (within : header.WithinList) {left : UInt8}
    (fewer : left.toNat ≤ header.segmentsLeft.toNat) :
    (mk (Bytes.patch header.bytes 3 [left])).WithinList := by
  intro listed
  by_cases room : 4 ≤ header.bytes.length
  case neg =>
    -- Too short a header lists nothing.
    rw [isSegmentList, Bool.and_eq_true, decide_eq_true_eq, fixedSize, Bytes.patch] at listed
    simp only [List.length_append, List.length_take, List.length_drop, List.length_singleton] at listed
    omega
  have kind : (mk (Bytes.patch header.bytes 3 [left])).kind = header.kind :=
    Bytes.byteAt_patch_of_apart _ (by omega) (Or.inl (by decide))
  have last : (mk (Bytes.patch header.bytes 3 [left])).lastEntry = header.lastEntry :=
    Bytes.byteAt_patch_of_apart _ (by omega) (Or.inr (by simp))
  have count : (mk (Bytes.patch header.bytes 3 [left])).segmentsLeft = left :=
    Bytes.byteAt_patch left (by omega)
  rw [isSegmentList, kind, Bytes.patch_byte_length (by omega)] at listed
  rw [count, last]
  exact Nat.le_trans fewer (within listed)

end RoutingHeader

/-- Nothing comes of a packet that is stuck at a router, and it is dropped. -/
theorem Station.TakesIn.of_stuck {family : Family} {station : Station family} {policy : Policy family}
    {ingress : InterfaceId} {packet : Packet family} {reaction : Reaction family}
    (taken : station.TakesIn policy ingress packet reaction)
    (router : station.node.settings.forwarding = true) (stuck : packet.visitSegment = .stuck) :
    reaction = .counting [.packetsDropped] := by
  -- Every other way needs a visit that is not stuck, or a host.
  cases taken with
  | host host => cases host.symm.trans router
  | arrived _ visited => cases visited.symm.trans stuck
  | stuck => rfl
  | leaves _ visited => cases visited.symm.trans stuck
  | stays _ visited => cases visited.symm.trans stuck

namespace Ipv6Packet

/-- What a router does that keeps to the list of a segment routing header. -/
structure KeepsToList (packet : Ipv6Packet) (header : RoutingHeader) : Prop where
  /-- Where more segments are said to be left than are listed, the packet is dropped and nothing is sent. -/
  past : header.lastEntry.toNat + 1 < header.segmentsLeft.toNat →
    ∀ (station : Station .v6) policy ingress reaction, station.node.settings.forwarding = true →
      station.TakesIn policy ingress packet reaction → reaction = .counting [.packetsDropped]
  /-- Where the packet goes on, it goes to the next one of the segments that are listed. -/
  listed : ∀ onward, packet.visitSegment = .onward onward →
    header.segment? (header.segmentsLeft.toNat - 1) = some onward.destination ∧
      header.segmentsLeft.toNat - 1 ≤ header.lastEntry.toNat

section Visit

variable {packet : Ipv6Packet} {header : RoutingHeader} (read : packet.routingHeader? = some header)
  (listed : header.isSegmentList)
include read listed

/-- A packet has arrived where no segment is left. -/
theorem visitSegment_arrived (ended : header.segmentsLeft = 0) : packet.visitSegment = .arrived := by
  simp only [visitSegment, read, listed, ended, Bool.not_true, Bool.false_eq_true, if_false, if_true]

variable (remaining : header.segmentsLeft ≠ 0)
include remaining

/-- A packet is stuck where the header has no room for the next segment. -/
theorem visitSegment_stuck (missing : header.segment? (header.segmentsLeft.toNat - 1) = none) :
    packet.visitSegment = .stuck := by
  have index := Bytes.toNat_sub_one remaining
  rw [← index, Nat.add_sub_cancel] at missing
  simp only [visitSegment, read, listed, Bool.not_true, Bool.false_eq_true, if_false,
    if_neg remaining, missing]

/-- A packet goes on to the next segment where the header has room for it. -/
theorem visitSegment_onward_to (wellFormed : packet.WellFormed) {next : Address .v6}
    (reached : header.segment? (header.segmentsLeft.toNat - 1) = some next) :
    ∃ onward, packet.visitSegment = .onward onward ∧ onward.destination = next := by
  have index := Bytes.toNat_sub_one remaining
  rw [← index, Nat.add_sub_cancel] at reached
  obtain ⟨bytes, written, rfl⟩ := Option.map_eq_some_iff.mp read
  obtain ⟨place, found, rfl⟩ := Option.map_eq_some_iff.mp written
  generalize counted : (RoutingHeader.mk
    (Bytes.slice packet.bytes place.offset place.length)).segmentsLeft - 1 = left at reached
  have visit := visitSegment_next found rfl listed remaining (by rw [counted]; exact reached)
  have moved := moved_destination found wellFormed left next
  rw [counted] at visit
  split at visit
  · -- The destination stays where the header goes.
    have fine := (moved_wellFormed found wellFormed left next).1
    exact ⟨_, visit, (dropping_destination fine (routing_mem found)).trans moved⟩
  · exact ⟨_, visit, moved⟩

end Visit

/-- A router keeps to the list of a header exactly if the header has no room for the segments that are left
whenever these are more than the listed ones. -/
theorem keepsToList_iff {packet : Ipv6Packet} {header : RoutingHeader} (wellFormed : packet.WellFormed)
    (read : packet.routingHeader? = some header) (listed : header.isSegmentList) :
    packet.KeepsToList header ↔
      (header.lastEntry.toNat + 1 < header.segmentsLeft.toNat →
        header.segmentCount < header.segmentsLeft.toNat) := by
  by_cases ended : header.segmentsLeft = 0
  · -- The packet has arrived, and there is nothing to keep to.
    have arrived := visitSegment_arrived read listed ended
    refine iff_of_true ⟨fun past => ?_, fun onward visited => ?_⟩ fun past => ?_
    · simp [ended] at past
    · cases arrived.symm.trans visited
    · simp [ended] at past
  -- Where the segment that comes next is not there, the packet is stuck, and that is so only for lack of room.
  have positive : header.segmentsLeft.toNat ≠ 0 := fun zero => ended (UInt8.toNat_inj.mp zero)
  cases reached : header.segment? (header.segmentsLeft.toNat - 1) with
  | none =>
    have stuck := visitSegment_stuck read listed ended reached
    have short : header.segmentCount < header.segmentsLeft.toNat := by
      rw [← Option.not_isSome_iff_eq_none, RoutingHeader.segment?_isSome_iff listed] at reached
      omega
    refine iff_of_true ⟨fun _ station policy ingress reaction router taken =>
      taken.of_stuck router stuck, fun onward visited => ?_⟩ fun _ => short
    cases stuck.symm.trans visited
  | some next =>
    have inside := (RoutingHeader.segment?_isSome_iff listed).mp (Option.isSome_of_eq_some reached)
    obtain ⟨onward, visited, goal⟩ := visitSegment_onward_to read listed ended wellFormed reached
    constructor
    · -- The packet goes on, so the segment must be listed.
      intro keeps past
      have bounded := (keeps.listed onward visited).2
      omega
    · intro room
      -- Goal and index are those of the segment that was reached.
      refine ⟨fun past => absurd (room past) (by omega), fun other sent => ?_⟩
      obtain rfl : onward = other := by injection visited.symm.trans sent
      exact ⟨goal ▸ reached, by omega⟩

/-- A packet to `2001:db8:1::1` whose routing header lists `2001:db8:2::5` alone, has padding behind the list,
and says how many segments are left. -/
def padded (left : UInt8) : Ipv6Packet where
  bytes := [0x60, 0, 0, 0, 0, 40, 43, 64] ++
    [0x20, 0x01, 0x0D, 0xB8, 0, 1, 0, 0, 0, 0, 0, 0, 0, 0, 0, 9] ++
    [0x20, 0x01, 0x0D, 0xB8, 0, 1, 0, 0, 0, 0, 0, 0, 0, 0, 0, 1] ++
    [59, 4, 4, left, 0, 0, 0, 0] ++
    [0x20, 0x01, 0x0D, 0xB8, 0, 2, 0, 0, 0, 0, 0, 0, 0, 0, 0, 5] ++
    [4, 14, 0, 0, 0, 0, 0, 0, 0, 0, 0, 0, 0, 0, 0, 0]
  chain := ⟨[⟨43, 40, 40, 6⟩], 59, 80⟩

/-- The routing header of such a packet. -/
def paddedHeader (left : UInt8) : RoutingHeader := ⟨Bytes.slice (padded left).bytes 40 40⟩

/-- With one segment left the packet goes on to the one that is listed. -/
theorem padded_keepsToList : (padded 1).WellFormed ∧ (padded 1).routingHeader? = some (paddedHeader 1) ∧
    (paddedHeader 1).isSegmentList ∧ (padded 1).KeepsToList (paddedHeader 1) := by
  have read : parse (padded 1).bytes = .ok (padded 1) := by cbv
  have wellFormed := (parse_cases read).1
  exact ⟨wellFormed, rfl, rfl, (keepsToList_iff wellFormed rfl rfl).mpr (by decide)⟩

/-- A router with the address `2001:db8:1::1` and a route to everywhere. -/
def endpoint : Station .v6 where
  node := {
    settings := { forwarding := true }
    loopback := 0
    attached := [1]
    table := ⟨[.configured (.net (.containing .unspecified 0)) none 1]⟩
    handled := [] }
  interfaces := ⟨[(0, .loopback),
    (1, .onLink 0 (some (.unicast (.ofNat (0x20010DB80001 <<< 80 + 1)) 64)))]⟩

/-- With two segments left the packet goes on to `40e::`, which is the padding. -/
theorem padded_sent_past_list : parse (padded 2).bytes = .ok (padded 2) ∧
    (padded 2).routingHeader? = some (paddedHeader 2) ∧ (paddedHeader 2).isSegmentList ∧
    (paddedHeader 2).lastEntry.toNat + 1 < (paddedHeader 2).segmentsLeft.toNat ∧
    endpoint.node.settings.forwarding = true ∧ endpoint.hasAddress (padded 2).destination = true ∧
    (endpoint.receive .plain 0 1 (padded 2).bytes).1.sendings.map (·.nextHop) =
      [.ofNat (0x40E <<< 112)] ∧
    ¬ (padded 2).KeepsToList (paddedHeader 2) := by
  -- The packet parses, and its next segment is read from the bytes of the padding.
  have read : parse (padded 2).bytes = .ok (padded 2) := by cbv
  have next : (paddedHeader 2).segment? ((paddedHeader 2).segmentsLeft.toNat - 1) =
      some (.ofNat (0x40E <<< 112)) := by decide
  obtain ⟨onward, visited, -⟩ :=
    visitSegment_onward_to rfl rfl (by decide) (parse_cases read).1 next
  have parsed : Packet.parse .v6 (padded 2).bytes = .ok (padded 2) := read
  have sent : (endpoint.dispatch .plain 1 (padded 2)).sendings.map (·.nextHop) =
      [.ofNat (0x40E <<< 112)] := by decide +kernel
  -- The station is evaluated once, for the sending, and the rest are facts about the header.
  refine ⟨read, rfl, rfl, by decide, rfl, by decide +kernel, ?_, fun keeps => ?_⟩
  · rw [Station.receive, parsed]
    exact sent
  · exact absurd (keeps.listed onward visited).2 (by decide)

/-- Each routing header of a packet lists as many segments as it says are left, whatever it announces. -/
def WithinLists (packet : Ipv6Packet) : Prop :=
  ∀ content ∈ packet.contents, content.1 = ExtensionHeader.routing →
    (RoutingHeader.mk (0 :: content.2)).WithinList

namespace WithinLists

variable {packet : Ipv6Packet} {header : ExtensionHeader} (within : packet.WithinLists)
include within

section First

variable (wellFormed : packet.WellFormed)
  (found : packet.extension? ExtensionHeader.routing = some header)
include wellFormed found

/-- The first routing header is one of them. -/
theorem first :
    (RoutingHeader.mk (Bytes.slice packet.bytes header.offset header.length)).WithinList := by
  have bounded := within (header.content packet.bytes) (List.mem_map_of_mem (routing_mem found))
    (routing_kind found)
  refine (RoutingHeader.withinList_of_drop ?_ (routing_ne_nil found wellFormed)
    (List.cons_ne_nil _ _)).mpr bounded
  rfl

/-- On the way to the next segment no header has more segments left. -/
theorem moved {left : UInt8} (next : Address .v6)
    (fewer : left.toNat ≤ (RoutingHeader.mk
      (Bytes.slice packet.bytes header.offset header.length)).segmentsLeft.toNat) :
    (packet.moved header left next).WithinLists := by
  have member := routing_mem found
  have counted := wellFormed.withByte member (show 2 ≤ 3 by decide) (by decide) left
  intro content among own
  -- The destination stands in the fixed header.
  rw [Ipv6Packet.moved, withDestination, withField_contents counted
    (by simp [Family.bits, headerSize])] at among
  obtain ⟨other, there, rfl⟩ := List.mem_map.mp among
  rw [recount_content wellFormed member there] at own ⊢
  split
  · rename_i same
    rw [if_pos same] at own
    have bounded := within (header.content packet.bytes) (List.mem_map_of_mem member) own
    have count : (RoutingHeader.mk (0 :: (header.content packet.bytes).2)).segmentsLeft =
        (RoutingHeader.mk (Bytes.slice packet.bytes header.offset header.length)).segmentsLeft :=
      RoutingHeader.segmentsLeft_of_drop rfl
    exact bounded.recounted (count ▸ fewer)
  · rename_i foreign
    rw [if_neg foreign] at own
    exact within _ (List.mem_map_of_mem there) own

end First

/-- The other routing headers stay when one goes. -/
theorem dropping (wellFormed : packet.WellFormed) (member : header ∈ packet.chain.headers) :
    (packet.dropping header).WithinLists := by
  intro content among
  rw [dropping_contents wellFormed member] at among
  exact within content (List.map_subset _ List.erase_subset among)

/-- A visit leaves a packet within its lists. -/
theorem onward {next : Ipv6Packet} (wellFormed : packet.WellFormed)
    (visited : packet.visitSegment = .onward next) : next.WithinLists := by
  -- Only a visit that goes on is left, and its packet has one segment less to go.
  rcases visitSegment_cases packet with
    arrived | stuck | ⟨header, goal, found, -, -, remaining, result⟩
  · cases arrived.symm.trans visited
  · cases stuck.symm.trans visited
  have fewer := Nat.le_of_lt (Nat.lt_of_succ_le (Nat.le_of_eq (Bytes.toNat_sub_one remaining)))
  have moved := within.moved wellFormed found goal fewer
  -- The header stays with its list, or it goes with all of it.
  rcases result with onto | without
  · obtain rfl := SegmentVisit.onward.inj (onto.symm.trans visited)
    exact moved
  · obtain rfl := SegmentVisit.onward.inj (without.symm.trans visited)
    exact moved.dropping (moved_wellFormed found wellFormed _ goal).1 (routing_mem found)

/-- Any number of visits leaves a packet within its lists. -/
theorem along {last : Ipv6Packet} (wellFormed : packet.WellFormed)
    (visits : @Packet.Visits .v6 packet last) : last.WellFormed ∧ last.WithinLists :=
  visits.keeps (fun packet : Ipv6Packet => packet.WellFormed ∧ packet.WithinLists) ⟨wellFormed, within⟩
    fun ⟨fine, within⟩ visited => ⟨(visitSegment_onward fine visited).1, within.onward fine visited⟩

end WithinLists

/-- A packet that sets out within its lists only ever goes to listed segments. -/
theorem goes_to_listed {packet last onward : Ipv6Packet} (wellFormed : packet.WellFormed)
    (within : packet.WithinLists) (visits : @Packet.Visits .v6 packet last)
    (visited : last.visitSegment = .onward onward) :
    ∃ header, last.routingHeader? = some header ∧
      header.segment? (header.segmentsLeft.toNat - 1) = some onward.destination ∧
      header.segmentsLeft.toNat - 1 ≤ header.lastEntry.toNat := by
  -- The bound on the list holds at the last packet already, since visits keep it.
  obtain ⟨lastWellFormed, lastWithin⟩ := within.along wellFormed visits
  rcases visitSegment_cases last with
    arrived | stuck | ⟨header, next, found, listed, reached, remaining, -⟩
  · cases arrived.symm.trans visited
  · cases stuck.symm.trans visited
  have index := Nat.eq_sub_of_add_eq (Bytes.toNat_sub_one remaining)
  rw [index] at reached
  -- The segment that was reached is the one that the header names.
  have read := routingHeader?_eq found
  obtain ⟨other, sent, rfl⟩ := visitSegment_onward_to read listed remaining lastWellFormed reached
  obtain rfl := SegmentVisit.onward.inj (sent.symm.trans visited)
  have bounded := lastWithin.first lastWellFormed found listed
  exact ⟨_, read, reached, by omega⟩

end Ipv6Packet

end NetworkLayer
