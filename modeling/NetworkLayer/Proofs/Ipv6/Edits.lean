import NetworkLayer.Proofs.Ipv6

/-!
Sequences of edits of an IPv6 packet. Main statement: whatever is edited, and however often, the packet is
the one that its bytes read back as, its extension headers stand one behind the other, the upper layer
is untouched, and a removal takes exactly the first header of its kind.
-/

namespace NetworkLayer.Ipv6Packet

/-- An edit of a packet in place. -/
inductive Edit where
  | source (source : Address .v6)
  | destination (destination : Address .v6)
  | hopLimit (hopLimit : UInt8)
  /-- One hop on, unless the hop limit is used up. -/
  | hop
  /-- Another count of segments to visit, if there is a routing header. -/
  | segmentsLeft (count : UInt8)
  /-- The first extension header of a kind goes, if there is one. -/
  | removal (kind : UInt8)

/-- The packet after an edit; an edit that does not apply leaves it as it is. -/
def edited (packet : Ipv6Packet) : Edit → Ipv6Packet
  | .source source => packet.withSource source
  | .destination destination => packet.withDestination destination
  | .hopLimit hopLimit => packet.withHopLimit hopLimit
  | .hop => packet.hopped?.getD packet
  | .segmentsLeft count => (packet.withSegmentsLeft? count).getD packet
  | .removal kind => (packet.withoutExtension? kind).getD packet

/-- What no edit may change of a packet, given that it reads back from its bytes. -/
structure Keeps (packet later : Ipv6Packet) : Prop where
  wellFormed : later.WellFormed
  protocol : later.chain.upperProtocol = packet.chain.upperProtocol
  payload : later.upperPayload = packet.upperPayload

namespace Keeps

variable {packet : Ipv6Packet}

/-- A packet that is left alone keeps what it has. -/
theorem refl (wellFormed : packet.WellFormed) : Keeps packet packet := ⟨wellFormed, rfl, rfl⟩

/-- What two edits keep, both together keep. -/
theorem trans {later last : Ipv6Packet} (first : Keeps packet later) (second : Keeps later last) :
    Keeps packet last where
  wellFormed := second.wellFormed
  protocol := second.protocol.trans first.protocol
  payload := second.payload.trans first.payload

variable (wellFormed : packet.WellFormed)
include wellFormed

/-- A field of the fixed header behind the announcement of the chain may change. -/
theorem withField {offset : Nat} {field : Bytes} (behind : 7 ≤ offset)
    (fits : offset + field.length ≤ headerSize) : Keeps packet (packet.withField offset field) where
  wellFormed := wellFormed.withField behind fits
  protocol := rfl
  payload := withField_upperPayload wellFormed fits

/-- The hop limit may change. -/
theorem withHopLimit (hopLimit : UInt8) : Keeps packet (packet.withHopLimit hopLimit) :=
  withField wellFormed (by decide) (by simp [headerSize])

/-- Either address may change. -/
theorem withAddress {offset : Nat} (address : Address .v6) (behind : 7 ≤ offset)
    (fits : offset + 16 ≤ headerSize) : Keeps packet (packet.withField offset address.octets) :=
  withField wellFormed behind (by rw [Address.octets_length]; exact fits)

/-- The count of segments to visit may change. -/
theorem withSegmentsLeft {later : Ipv6Packet} {count : UInt8}
    (recounted : packet.withSegmentsLeft? count = some later) : Keeps packet later := by
  obtain ⟨header, found, rfl⟩ := Option.map_eq_some_iff.mp recounted
  have member : header ∈ packet.chain.headers := List.mem_of_find?_eq_some found
  exact ⟨wellFormed.withByte member (by decide) (by decide) count, rfl,
    withByte_upperPayload wellFormed member (by decide) count⟩

/-- An extension header may go. -/
theorem withoutExtension {later : Ipv6Packet} {kind : UInt8}
    (removed : packet.withoutExtension? kind = some later) : Keeps packet later := by
  obtain ⟨header, found, rfl⟩ := Option.map_eq_some_iff.mp removed
  have member : header ∈ packet.chain.headers := List.mem_of_find?_eq_some found
  obtain ⟨fine, protocol, payload, -⟩ := dropping_wellFormed wellFormed member
  exact ⟨fine, protocol, payload⟩

/-- Every edit keeps what no edit may change. -/
theorem edited (edit : Edit) : Keeps packet (packet.edited edit) := by
  -- An edit that is refused keeps all, and any other is one of the kept changes.
  cases edit with
  | source source => exact withAddress wellFormed source (by decide) (by decide)
  | destination destination => exact withAddress wellFormed destination (by decide) (by decide)
  | hopLimit hopLimit => exact withHopLimit wellFormed hopLimit
  | hop =>
    simp only [Ipv6Packet.edited, hopped?]
    split
    · exact refl wellFormed
    · exact withHopLimit wellFormed _
  | segmentsLeft count =>
    simp only [Ipv6Packet.edited]
    cases recounted : packet.withSegmentsLeft? count with
    | none => exact refl wellFormed
    | some later => exact withSegmentsLeft wellFormed recounted
  | removal kind =>
    simp only [Ipv6Packet.edited]
    cases removed : packet.withoutExtension? kind with
    | none => exact refl wellFormed
    | some later => exact withoutExtension wellFormed removed

/-- Every sequence of edits keeps what no edit may change. -/
theorem run (edits : List Edit) : Keeps packet (edits.foldl Ipv6Packet.edited packet) := by
  induction edits generalizing packet with
  | nil => exact refl wellFormed
  | cons edit rest ih =>
    have first := edited wellFormed edit
    exact first.trans (ih first.wellFormed)

end Keeps

section Removal

variable {packet : Ipv6Packet} {kind : UInt8}

/-- Taking out the first header of a kind is taking out whatever comes first among its kind. -/
theorem erase_of_first {headers : List ExtensionHeader} {header : ExtensionHeader}
    (found : headers.find? (·.kind == kind) = some header) :
    headers.erase header = headers.eraseP (·.kind == kind) := by
  obtain ⟨own, front, back, rfl, others⟩ := List.find?_eq_some_iff_append.mp found
  -- The header that is found is the first of its kind, so it is not in front of itself.
  have apart : header ∉ front := by
    intro among
    have other := others header among
    simp [own] at other
  have foreign : ∀ other ∈ front, ¬ (other.kind == kind) = true := by
    intro other among
    simpa using others other among
  rw [List.erase_append_right _ apart, List.eraseP_append_right _ foreign, List.erase_cons_head,
    List.eraseP_cons_of_pos (p := fun other : ExtensionHeader => other.kind == kind) own]

/-- A removal does nothing exactly where there is no extension header of the kind. -/
theorem withoutExtension?_eq_none_iff :
    packet.withoutExtension? kind = none ↔ ∀ header ∈ packet.chain.headers, header.kind ≠ kind := by
  simp [withoutExtension?, extension?]

variable {later : Ipv6Packet} (wellFormed : packet.WellFormed)
  (removed : packet.withoutExtension? kind = some later)
include wellFormed removed

/-- A removal takes the first extension header of the kind and leaves what all others say. -/
theorem withoutExtension?_contents :
    later.contents = packet.contents.eraseP (·.1 == kind) := by
  obtain ⟨header, found, rfl⟩ := Option.map_eq_some_iff.mp removed
  have member : header ∈ packet.chain.headers := List.mem_of_find?_eq_some found
  rw [dropping_contents wellFormed member, erase_of_first found, contents, List.eraseP_map]
  rfl

/-- A removal leaves the fixed header alone but for its length and its announcement. -/
theorem withoutExtension?_fixed {index : Nat} (fixed : index < headerSize) (other : index ≠ 6)
    (apart : index < 4 ∨ 6 ≤ index) :
    Bytes.byteAt later.bytes index = Bytes.byteAt packet.bytes index := by
  obtain ⟨header, found, rfl⟩ := Option.map_eq_some_iff.mp removed
  have member : header ∈ packet.chain.headers := List.mem_of_find?_eq_some found
  rw [dropping_bytes]
  exact byteAt_shortened wellFormed member fixed other apart

end Removal

/--
The chain that a packet carries along never drifts from its bytes.

After every edit of every sequence the packet is the one that its bytes read back as, and its extension
headers stand one behind the other from the end of the fixed header to the upper layer.
That layer is the one that was read.
A removal that does nothing has found no extension header of the kind.
Any other takes the first one of the kind, the others keep their order, their kinds and what they say
behind their announcement, and the fixed header changes in its length and its announcement alone.
-/
theorem edited_reads_back {data : Bytes} {packet : Ipv6Packet} (read : parse data = .ok packet)
    (edits : List Edit) :
    let last := edits.foldl edited packet
    parse last.bytes = .ok last ∧
    ExtensionHeader.Tiles headerSize last.chain.headers last.chain.upperOffset ∧
    last.chain.upperOffset ≤ last.bytes.length ∧
    last.upperPayload = packet.upperPayload ∧
    last.chain.upperProtocol = packet.chain.upperProtocol ∧
    ∀ kind,
      (last.withoutExtension? kind = none ↔ ∀ header ∈ last.chain.headers, header.kind ≠ kind) ∧
      ∀ shorter, last.withoutExtension? kind = some shorter →
        shorter.contents = last.contents.eraseP (·.1 == kind) ∧
        ∀ index < headerSize, index < 4 ∨ 6 < index →
          Bytes.byteAt shorter.bytes index = Bytes.byteAt last.bytes index := by
  intro last
  -- Whatever the edits were, they keep what this asks for.
  have kept : Keeps packet last := Keeps.run (parse_cases read).1 edits
  have inside := kept.wellFormed.within.1
  refine ⟨kept.wellFormed.parse, kept.wellFormed.stands.tiles, inside, kept.payload,
    kept.protocol, fun kind => ⟨withoutExtension?_eq_none_iff, fun shorter removed => ?_⟩⟩
  -- A removal leaves the fixed header alone but for the length and the announcement.
  refine ⟨withoutExtension?_contents kept.wellFormed removed, fun index fixed apart => ?_⟩
  exact withoutExtension?_fixed kept.wellFormed removed fixed (by omega) (by omega)

/-- A packet with hop-by-hop options, two headers of destination options and a routing header. -/
def optionsTwice : Ipv6Packet where
  bytes := [0x60, 0, 0, 0, 0, 36, 0, 64] ++ List.replicate 32 0 ++
    [60, 0, 1, 4, 0, 0, 0, 0] ++ [43, 0, 1, 4, 1, 1, 1, 1] ++ [60, 0, 0, 2, 0, 0, 0, 0] ++
    [17, 0, 1, 4, 2, 2, 2, 2] ++ [1, 2, 3, 4]
  chain := ⟨[⟨0, 40, 8, 6⟩, ⟨60, 48, 8, 40⟩, ⟨43, 56, 8, 48⟩, ⟨60, 64, 8, 56⟩], 17, 72⟩

/-- Of two headers of destination options the first goes, and a later removal finds the second. -/
theorem edited_options_twice :
    parse optionsTwice.bytes = .ok optionsTwice ∧
    let last := [Edit.segmentsLeft 1, .removal 60, .hop].foldl edited optionsTwice
    parse last.bytes = .ok last ∧ last.upperPayload = [1, 2, 3, 4] ∧
    ∃ shorter, last.withoutExtension? 60 = some shorter ∧
      shorter.contents = [(0, [0, 1, 4, 0, 0, 0, 0]), (43, [0, 0, 1, 0, 0, 0, 0])] := by
  -- The packet is computed, and what is known of any edits is taken from the general statement.
  have read : parse optionsTwice.bytes = .ok optionsTwice := by cbv
  obtain ⟨reads, -, -, payload, -, removals⟩ :=
    edited_reads_back read [Edit.segmentsLeft 1, .removal 60, .hop]
  have there : (([Edit.segmentsLeft 1, .removal 60, .hop].foldl edited
      optionsTwice).withoutExtension? 60).isSome := by cbv
  obtain ⟨shorter, removed⟩ := Option.isSome_iff_exists.mp there
  refine ⟨read, reads, payload, shorter, removed, ((removals 60).2 shorter removed).1.trans ?_⟩
  cbv

end NetworkLayer.Ipv6Packet
