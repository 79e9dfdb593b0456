import NetworkLayer.Proofs.Access.Checked
import NetworkLayer.Proofs.SegmentEndpoint

/-!
IPv6 packets with their extension headers, read and edited with every access checked. No access to a
well-formed packet goes wrong, not even after an extension header has been removed.
-/

namespace NetworkLayer

namespace ExtensionChain

variable {rest : Bytes} {kind : UInt8} {kindOffset offset : Nat}

/-- The size byte of an extension header; the one of a fragment header is not looked at. -/
def checkedSize (bytes : Bytes) (kind : UInt8) (offset : Nat) : Checked UInt8 :=
  if kind = ExtensionHeader.fragment then .ok 0 else Checked.byte bytes (offset + 1)

/-- Follows the chain in a byte string from a header value and the offset of its header on. -/
def checkedWalk (bytes : Bytes) (kind : UInt8) (kindOffset offset : Nat) :
    Checked (Except Error ExtensionChain) :=
  if ExtensionHeader.isKind kind then
    if _short : bytes.length < offset + 2 then .ok (.error .extensionTruncated)
    else do
      let size ← checkedSize bytes kind offset
      let length := ExtensionHeader.lengthOf kind size
      if bytes.length < offset + length then .ok (.error (.extensionBodyTruncated kind))
      else do
        let next ← Checked.byte bytes offset
        let tail ← checkedWalk bytes next offset (offset + length)
        return tail.map fun chain =>
          { chain with headers := ⟨kind, offset, length, kindOffset⟩ :: chain.headers }
  else .ok (.ok ⟨[], kind, offset⟩)
termination_by bytes.length - offset
decreasing_by
  have := ExtensionHeader.lengthOf_pos kind size
  omega

/-- The size byte is looked at only where it counts. -/
theorem checkedSize_length (kind : UInt8) {bytes : Bytes} (inside : offset + 2 ≤ bytes.length) :
    ∃ size, checkedSize bytes kind offset = .ok size ∧ ExtensionHeader.lengthOf kind size =
      ExtensionHeader.lengthOf kind (Bytes.byteAt bytes (offset + 1)) := by
  -- A fragment header has a fixed length, whatever its second byte is.
  by_cases fragment : kind = ExtensionHeader.fragment
  · exact ⟨0, if_pos fragment, by rw [ExtensionHeader.lengthOf, ExtensionHeader.lengthOf,
      if_pos fragment, if_pos fragment]⟩
  · exact ⟨_, (if_neg fragment).trans (Checked.byte_ok (by omega)), rfl⟩

/-- A walk stops at a header without a size. -/
theorem walk_short (known : ExtensionHeader.isKind kind) (short : rest.length < 2) :
    walk rest kind kindOffset offset = .error .extensionTruncated := by
  unfold walk
  rw [if_pos known]
  -- Fewer than two bytes are none or one.
  rcases rest with _ | ⟨next, _ | ⟨size, more⟩⟩
  · rfl
  · rfl
  · simp only [List.length_cons] at short
    omega

/-- A walk stops at a header that is cut off. -/
theorem walk_cut (known : ExtensionHeader.isKind kind) (sized : 2 ≤ rest.length)
    (cut : rest.length < ExtensionHeader.lengthOf kind (Bytes.byteAt rest 1)) :
    walk rest kind kindOffset offset = .error (.extensionBodyTruncated kind) := by
  -- With two bytes there, the announced size can be read and goes beyond the end.
  rcases rest with _ | ⟨next, _ | ⟨size, more⟩⟩
  · cases sized
  · exact absurd sized (by simp)
  · have less : ((next :: size :: more).take (ExtensionHeader.lengthOf kind size)).length <
        ExtensionHeader.lengthOf kind size :=
      Nat.lt_of_le_of_lt (List.length_take_le' _ _) cut
    rw [walk, if_pos known]
    simp only [if_pos less]

/-- Whatever is announced, no access on a walk goes wrong. -/
theorem checkedWalk_eq (bytes : Bytes) (kind : UInt8) (kindOffset offset : Nat) :
    checkedWalk bytes kind kindOffset offset =
      .ok (walk (bytes.drop offset) kind kindOffset offset) := by
  -- Each header shortens what is left to walk.
  generalize left : bytes.length - offset = room
  induction room using Nat.strongRecOn generalizing kind kindOffset offset with
  | ind room ih =>
    have behind : (bytes.drop offset).length = bytes.length - offset := List.length_drop
    by_cases known : ExtensionHeader.isKind kind
    · by_cases short : bytes.length < offset + 2
      · rw [checkedWalk, if_pos known, dif_pos short, walk_short known (by omega)]
      -- The two bytes at the front are read before the size is trusted.
      obtain ⟨size, read, wide⟩ := checkedSize_length kind (Nat.le_of_not_lt short)
      have least := ExtensionHeader.least_lengthOf kind size
      have second : Bytes.byteAt (bytes.drop offset) 1 = Bytes.byteAt bytes (offset + 1) :=
        Bytes.byteAt_drop ..
      have first : Bytes.byteAt (bytes.drop offset) 0 = Bytes.byteAt bytes offset :=
        Bytes.byteAt_drop ..
      rw [checkedWalk, if_pos known, dif_neg short, read, Checked.ok_bind]
      simp only
      by_cases cut : bytes.length < offset + ExtensionHeader.lengthOf kind size
      · rw [if_pos cut, walk_cut known (by omega) (by rw [second, ← wide]; omega)]
      · have enough : ExtensionHeader.lengthOf kind (Bytes.byteAt (bytes.drop offset) 1) ≤
            (bytes.drop offset).length := by
          rw [second, ← wide]
          omega
        rw [if_neg cut, Checked.byte_ok (by omega), Checked.ok_bind,
          ih _ (by omega) _ _ _ rfl, Checked.ok_bind, walk_header known enough, second, ← wide,
          first, List.drop_drop]
        rfl
    · -- Any other value ends the chain.
      unfold walk
      rw [checkedWalk, if_neg known, if_neg known]

end ExtensionChain

namespace Ipv6Packet

/-- The extension chain of a packet's bytes. -/
def checkedChainOf (bytes : Bytes) : Checked (Except Error ExtensionChain) := do
  ExtensionChain.checkedWalk bytes (← Checked.byte bytes 6) 6 headerSize

/-- Reads a packet. -/
def checkedParse (data : Bytes) : Checked (Except Error Ipv6Packet) :=
  if data.length < headerSize then .ok (.error (.tooShort .ipv6Packet))
  else do
    let first ← Checked.byte data 0
    if first.toNat / 16 ≠ 6 then .ok (.error (.version .v6))
    else do
      let payloadLength := (← Checked.word data 4).toNat
      if data.length < headerSize + payloadLength then
        .ok (.error (.ipv6PayloadLength payloadLength data.length))
      else do
        let bytes ← Checked.range data 0 (headerSize + payloadLength)
        return (← checkedChainOf bytes).map fun chain => ⟨bytes, chain⟩

/-- Hop limit. -/
def checkedHopLimit (packet : Ipv6Packet) : Checked UInt8 := Checked.byte packet.bytes 7

/-- Where the packet comes from. -/
def checkedSource (packet : Ipv6Packet) : Checked (Address .v6) := Checked.address packet.bytes 8

/-- Where the packet goes. -/
def checkedDestination (packet : Ipv6Packet) : Checked (Address .v6) :=
  Checked.address packet.bytes 24

/-- What follows the extension headers. -/
def checkedUpperPayload (packet : Ipv6Packet) : Checked Bytes :=
  Checked.rest packet.bytes packet.chain.upperOffset

/-- The first routing header. -/
def checkedRoutingHeader? (packet : Ipv6Packet) : Checked (Option RoutingHeader) :=
  match packet.extension? ExtensionHeader.routing with
  | none => .ok none
  | some header => do
    return some ⟨← Checked.range packet.bytes header.offset header.length⟩

/-- The packet with a field of a given width replaced. -/
def checkedWithField (packet : Ipv6Packet) (offset width : Nat) (field : Bytes) :
    Checked Ipv6Packet := do
  return { packet with bytes := ← Checked.write packet.bytes offset width field }

/-- The packet one hop on, unless its hop limit is used up. -/
def checkedHopped? (packet : Ipv6Packet) : Checked (Option Ipv6Packet) := do
  let hopLimit ← packet.checkedHopLimit
  if hopLimit ≤ 1 then .ok none
  else do
    let less ← Checked.countDown hopLimit
    return some (← packet.checkedWithField 7 1 [less])

/-- The packet to another destination. -/
def checkedWithDestination (packet : Ipv6Packet) (destination : Address .v6) :
    Checked Ipv6Packet :=
  packet.checkedWithField 24 16 destination.octets

/-- The packet with another count of segments to visit, if it has a routing header. -/
def checkedWithSegmentsLeft? (packet : Ipv6Packet) (segmentsLeft : UInt8) :
    Checked (Option Ipv6Packet) :=
  match packet.extension? ExtensionHeader.routing with
  | none => .ok none
  | some header => do
    return some (← packet.checkedWithField (header.offset + 3) 1 [segmentsLeft])

/-- The packet without an extension header. -/
def checkedDropping (packet : Ipv6Packet) (header : ExtensionHeader) : Checked Ipv6Packet := do
  let following ← Checked.byte packet.bytes header.offset
  let relinked ← Checked.write packet.bytes header.kindOffset 1 [following]
  let spliced ← Checked.remove relinked header.offset header.length
  let payloadLength := UInt16.ofNat (← Checked.difference spliced.length headerSize)
  let bytes ← Checked.write spliced 4 2 (Bytes.ofWord payloadLength)
  match ← checkedChainOf bytes with
  | .ok chain => return ⟨bytes, chain⟩
  | .error _ => return { packet with bytes }

/-- The packet without its first extension header of a kind, if it has one. -/
def checkedWithoutExtension? (packet : Ipv6Packet) (kind : UInt8) :
    Checked (Option Ipv6Packet) :=
  match packet.extension? kind with
  | none => .ok none
  | some header => do return some (← packet.checkedDropping header)

/-- The chain of a packet with a fixed header is found without a wrong access. -/
theorem checkedChainOf_eq {bytes : Bytes} (room : headerSize ≤ bytes.length) :
    checkedChainOf bytes = .ok (chainOf bytes) := by
  have fixed : (40 : Nat) ≤ bytes.length := room
  rw [checkedChainOf, Checked.byte_ok (by omega), Checked.ok_bind, ExtensionChain.checkedWalk_eq]
  rfl

/-- Whatever is read, no access to it goes wrong. -/
theorem checkedParse_eq (data : Bytes) : checkedParse data = .ok (parse data) := by
  simp only [parse, bind, Except.bind, pure, Except.pure, throw, throwThe, MonadExceptOf.throw]
  rw [checkedParse]
  by_cases short : data.length < headerSize
  · rw [if_pos short, if_pos short]
  have room : 40 ≤ data.length := Nat.le_of_not_lt short
  rw [if_neg short, if_neg short, Checked.byte_ok (by omega), Checked.ok_bind]
  by_cases other : (Bytes.byteAt data 0).toNat / 16 ≠ 6
  · rw [if_pos other, if_pos other]
  rw [if_neg other, if_neg other, Checked.word_ok (by omega), Checked.ok_bind]
  by_cases unfit : data.length < headerSize + (Bytes.wordAt data 4).toNat
  · rw [if_pos unfit, if_pos unfit]
  have whole : Bytes.slice data 0 (headerSize + (Bytes.wordAt data 4).toNat) =
      data.take (headerSize + (Bytes.wordAt data 4).toNat) := rfl
  -- What is cut to its declared length still has the fixed header, where the walk starts.
  rw [if_neg unfit, if_neg unfit, Checked.range_ok (by omega), Checked.ok_bind, whole,
    checkedChainOf_eq (by rw [List.length_take]; omega), Checked.ok_bind]
  cases chainOf (data.take (headerSize + (Bytes.wordAt data 4).toNat)) with
  | error cause => rfl
  | ok chain => rfl

section WellFormed

variable {packet : Ipv6Packet} (wellFormed : packet.WellFormed)
include wellFormed

/-- The hop limit is there. -/
theorem checkedHopLimit_eq : packet.checkedHopLimit = .ok packet.hopLimit :=
  Checked.byte_ok (Nat.lt_of_lt_of_le (by decide) wellFormed.room)

/-- The source is there. -/
theorem checkedSource_eq : packet.checkedSource = .ok packet.source :=
  Checked.address_ok (Nat.le_trans (by decide) wellFormed.room)

/-- The destination is there. -/
theorem checkedDestination_eq : packet.checkedDestination = .ok packet.destination :=
  Checked.address_ok (Nat.le_trans (by decide) wellFormed.room)

/-- The upper layer is there, if only as no byte. -/
theorem checkedUpperPayload_eq : packet.checkedUpperPayload = .ok packet.upperPayload :=
  Checked.rest_ok wellFormed.within.1

/-- The first routing header is there if there is one. -/
theorem checkedRoutingHeader?_eq : packet.checkedRoutingHeader? = .ok packet.routingHeader? := by
  rw [checkedRoutingHeader?]
  cases found : packet.extension? ExtensionHeader.routing with
  | none => rw [routingHeader?_eq_none found]
  | some header =>
    -- A header that was found lies in the packet, so the range that is cut out does, too.
    obtain ⟨-, -, ended, upper, -⟩ := wellFormed.header_within (routing_mem found)
    simp only [routingHeader?_eq found]
    rw [Checked.range_ok (by omega)]
    rfl

omit wellFormed in
/-- A field can be replaced within the packet. -/
theorem checkedWithField_eq {offset width : Nat} {field : Bytes} (full : field.length = width)
    (inside : offset + width ≤ packet.bytes.length) :
    packet.checkedWithField offset width field = .ok (packet.withField offset field) := by
  rw [checkedWithField, Checked.write_ok full inside]
  rfl

/-- A packet can make a hop. -/
theorem checkedHopped?_eq : packet.checkedHopped? = .ok packet.hopped? := by
  rw [checkedHopped?, checkedHopLimit_eq wellFormed, Checked.ok_bind, hopped?]
  by_cases spent : packet.hopLimit ≤ 1
  · rw [if_pos spent, if_pos spent]
  -- The count is above one here, so it can go down.
  · have positive : packet.hopLimit ≠ 0 := fun zero => spent (by rw [zero]; decide)
    rw [if_neg spent, if_neg spent, Checked.countDown_ok positive, Checked.ok_bind,
      checkedWithField_eq List.length_singleton (Nat.le_trans (by decide) wellFormed.room)]
    rfl

/-- The destination can be replaced. -/
theorem checkedWithDestination_eq (destination : Address .v6) :
    packet.checkedWithDestination destination = .ok (packet.withDestination destination) :=
  checkedWithField_eq (Address.octets_length destination)
    (Nat.le_trans (by decide) wellFormed.room)

/-- The count of segments can be replaced. -/
theorem checkedWithSegmentsLeft?_eq (segmentsLeft : UInt8) :
    packet.checkedWithSegmentsLeft? segmentsLeft =
      .ok (packet.withSegmentsLeft? segmentsLeft) := by
  rw [checkedWithSegmentsLeft?, withSegmentsLeft?]
  cases found : packet.extension? ExtensionHeader.routing with
  | none => rfl
  | some header =>
    -- The count is the fourth byte of a header, and a header has at least eight.
    obtain ⟨-, long, ended, upper, -⟩ := wellFormed.header_within (routing_mem found)
    simp only
    rw [checkedWithField_eq List.length_singleton (by omega)]
    rfl

/-- An extension header can be removed. -/
theorem checkedDropping_eq {header : ExtensionHeader} (member : header ∈ packet.chain.headers) :
    packet.checkedDropping header = .ok (packet.dropping header) := by
  obtain ⟨-, long, ended, upper, ordered⟩ := wellFormed.header_within member
  obtain ⟨-, room⟩ := spliced_length wellFormed member
  have fixed : (40 : Nat) ≤ (packet.spliced header).length := room
  have relinked := relinked_length wellFormed member
  have shortened : headerSize ≤ (packet.shortened header).length := by
    rw [Ipv6Packet.shortened, Bytes.patch_word_length (by omega)]
    exact room
  -- The header ends in front of the upper layer, and the fixed header stays: nothing here reaches
  -- behind the bytes, and the difference is not below zero.
  rw [checkedDropping, Checked.byte_ok (by omega), Checked.ok_bind,
    Checked.write_ok List.length_singleton (by omega), Checked.ok_bind,
    Checked.remove_ok (by omega), Checked.ok_bind]
  simp only [show Bytes.excise _ _ _ = packet.spliced header from rfl]
  rw [Checked.difference_ok room, Checked.ok_bind,
    Checked.write_ok (Bytes.ofWord_length _) (by omega), Checked.ok_bind]
  simp only [show Bytes.patch _ 4 _ = packet.shortened header from rfl]
  rw [checkedChainOf_eq shortened, Checked.ok_bind, dropping_eq]
  cases chainOf (packet.shortened header) with
  | error cause => rfl
  | ok chain => rfl

/-- The first extension header of a kind can be removed. -/
theorem checkedWithoutExtension?_eq (kind : UInt8) :
    packet.checkedWithoutExtension? kind = .ok (packet.withoutExtension? kind) := by
  rw [checkedWithoutExtension?, withoutExtension?]
  cases found : packet.extension? kind with
  | none => rfl
  | some header =>
    simp only
    rw [checkedDropping_eq wellFormed (List.mem_of_find?_eq_some found)]
    rfl

end WellFormed

end Ipv6Packet

namespace RoutingHeader

/-- The routing type. -/
def checkedKind (header : RoutingHeader) : Checked UInt8 := Checked.byte header.bytes 2

/-- Number of segments still to visit. -/
def checkedSegmentsLeft (header : RoutingHeader) : Checked UInt8 := Checked.byte header.bytes 3

/-- Whether the header carries a segment list. -/
def checkedIsSegmentList (header : RoutingHeader) : Checked Bool := do
  return (← header.checkedKind) == segmentType && fixedSize ≤ header.bytes.length

variable {header : RoutingHeader} (room : 8 ≤ header.bytes.length)
include room

/-- The count of segments is there. -/
theorem checkedSegmentsLeft_eq : header.checkedSegmentsLeft = .ok header.segmentsLeft :=
  Checked.byte_ok (by omega)

/-- The routing type is there. -/
theorem checkedIsSegmentList_eq : header.checkedIsSegmentList = .ok header.isSegmentList := by
  rw [checkedIsSegmentList, checkedKind, Checked.byte_ok (by omega)]
  rfl

end RoutingHeader

namespace Ipv6Packet

/-- Visits the segment that the first routing header of a packet has reached. -/
def checkedVisitSegment (packet : Ipv6Packet) : Checked (SegmentVisit .v6) := do
  match ← packet.checkedRoutingHeader? with
  | none => return .arrived
  | some header => do
    let segmentsLeft ← header.checkedSegmentsLeft
    if !(← header.checkedIsSegmentList) then return .stuck
    else if segmentsLeft = 0 then return .arrived
    else do
      let left ← Checked.countDown segmentsLeft
      -- Neither the list nor the flags are read without a look whether they are there.
      match header.segment? left.toNat with
      | none => return .stuck
      | some next => do
        let counted := (← packet.checkedWithSegmentsLeft? left).getD packet
        let moved ← counted.checkedWithDestination next
        if left = 0 ∧ header.cleanup then do
          return .onward ((← moved.checkedWithoutExtension? ExtensionHeader.routing).getD moved)
        else return .onward moved

/-- A segment can be visited. -/
theorem checkedVisitSegment_eq {packet : Ipv6Packet} (wellFormed : packet.WellFormed) :
    packet.checkedVisitSegment = .ok packet.visitSegment := by
  rw [checkedVisitSegment, checkedRoutingHeader?_eq wellFormed, Checked.ok_bind, visitSegment]
  cases found : packet.extension? ExtensionHeader.routing with
  | none =>
    rw [routingHeader?_eq_none found]
    rfl
  | some place =>
    -- The header is read once, and every test below is made on the same eight bytes.
    obtain ⟨-, long, ended, upper, -⟩ := wellFormed.header_within (routing_mem found)
    generalize read : RoutingHeader.mk (Bytes.slice packet.bytes place.offset place.length) = header
    have room : 8 ≤ header.bytes.length := by
      rw [← read, Bytes.slice_length (by omega)]
      exact long
    simp only [routingHeader?_eq found, read]
    rw [RoutingHeader.checkedSegmentsLeft_eq room, Checked.ok_bind,
      RoutingHeader.checkedIsSegmentList_eq room, Checked.ok_bind]
    -- A packet is visited further only if it has a list of segments and some are left.
    by_cases unlisted : (!header.isSegmentList) = true
    · rw [if_pos unlisted, if_pos unlisted]
      rfl
    rw [if_neg unlisted, if_neg unlisted]
    by_cases last : header.segmentsLeft = 0
    · rw [if_pos last, if_pos last]
      rfl
    rw [if_neg last, if_neg last, Checked.countDown_ok last, Checked.ok_bind]
    cases header.segment? (header.segmentsLeft - 1).toNat with
    | none => rfl
    | some next =>
      -- Counting down keeps the chain where it is, so the next edits have their places.
      have countedFine := wellFormed.withByte (routing_mem found) (show 2 ≤ 3 by decide)
        (by decide) (header.segmentsLeft - 1)
      simp only [checkedWithSegmentsLeft?_eq wellFormed, withSegmentsLeft?_eq found,
        Checked.ok_bind, Option.getD_some, checkedWithDestination_eq countedFine,
        checkedWithoutExtension?_eq (countedFine.withDestination next)]
      split
      · rfl
      · rfl

end Ipv6Packet

end NetworkLayer
