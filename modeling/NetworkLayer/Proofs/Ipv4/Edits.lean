import NetworkLayer.Proofs.Ipv4

/-!
Sequences of edits of an IPv4 packet. Main statement: whatever is edited, and however often, the packet
is the one that its bytes read back as, its options are untouched, and its header checksum holds again
after every edit that is made; a packet that was built reads back as what it was built from.
-/

namespace NetworkLayer

/-- What an IPv4 packet can be built from again: its fields apart from its options. -/
def Ipv4Packet.toDraft (packet : Ipv4Packet) : Ipv4Draft where
  identification := packet.identification
  -- The second bit of the flags, which share their word with the offset of a fragment.
  dontFragment := (Bytes.byteAt packet.bytes 6).toNat / 64 % 2 == 1
  ttl := packet.ttl
  protocol := packet.protocol
  source := packet.source
  destination := packet.destination
  payload := packet.payload

namespace Ipv4Draft

variable (draft : Ipv4Draft)

/-- The identification of a built packet reads back. -/
theorem toPacket_identification : draft.toPacket.identification = draft.identification := by
  have written : Bytes.slice draft.toPacket.bytes 4 2 = Bytes.ofWord draft.identification :=
    (draft.slice_toPacket (by decide) (Or.inl (by decide))).trans rfl
  rw [Ipv4Packet.identification, Bytes.wordAt, written, Bytes.ofNat_value_ofWord]

/-- The flag against fragments is all that stands in the byte of the flags. -/
theorem toPacket_flags :
    Bytes.byteAt draft.toPacket.bytes 6 = if draft.dontFragment then 0x40 else 0 := by
  refine Bytes.byteAt_of_slice ((draft.slice_toPacket (by decide) (Or.inl (by decide))).trans ?_)
  rfl

/-- A built packet has all that it was built from. -/
theorem toDraft_toPacket : draft.toPacket.toDraft = draft := by
  -- The flag is one bit of its byte.
  have flag : ((if draft.dontFragment then (0x40 : UInt8) else 0).toNat / 64 % 2 == 1) =
      draft.dontFragment := by
    cases draft.dontFragment
    · rfl
    · rfl
  rw [Ipv4Packet.toDraft, toPacket_identification, toPacket_flags, flag, toPacket_ttl,
    toPacket_protocol, toPacket_source, toPacket_destination, toPacket_payload]

end Ipv4Draft

namespace Ipv4Packet

/-- The header behind its fixed fields. -/
def options (packet : Ipv4Packet) : Bytes :=
  Bytes.slice packet.bytes leastHeader (packet.headerLength - leastHeader)

/-- A packet that was read, or built with a payload that its length field can tell. -/
inductive Obtained : Ipv4Packet → Prop
  | read {data : Bytes} {packet : Ipv4Packet} (read : parse data = .ok packet) : Obtained packet
  | built (draft : Ipv4Draft) (short : draft.payload.length ≤ 65515) : Obtained draft.toPacket

/-- A packet is well formed from the start. -/
theorem Obtained.wellFormed {packet : Ipv4Packet} (obtained : Obtained packet) :
    packet.WellFormed := by
  cases obtained with
  | read read => exact (parse_cases read).1
  | built draft short =>
    have least : leastHeader = 20 := rfl
    exact draft.toPacket_wellFormed (by omega)

/-- An edit of a packet in place. -/
inductive Edit where
  /-- One hop on, unless the time to live is used up. -/
  | hop
  | ttl (ttl : UInt8)
  | source (source : Address .v4)
  | destination (destination : Address .v4)
  | payload (payload : Bytes)
  /-- A fresh checksum and nothing else. -/
  | checksum

/-- A new payload has to leave the total length within its field. -/
def Edit.Fits (headerLength : Nat) : Edit → Prop
  | .payload bytes => bytes.length ≤ 65535 - headerLength
  | _ => True

/-- The packet after an edit; an edit that does not apply leaves it as it is. -/
def edited (packet : Ipv4Packet) : Edit → Ipv4Packet
  | .hop => packet.hopped?.getD packet
  | .ttl ttl => packet.withTtl ttl
  | .source source => packet.withSource source
  | .destination destination => packet.withDestination destination
  | .payload payload => packet.withPayload payload
  | .checksum => packet.refreshed

/-- A hop is refused to a packet that may make no further one. -/
theorem hopped?_eq_none_iff {packet : Ipv4Packet} : packet.hopped? = none ↔ packet.ttl ≤ 1 := by
  rw [hopped?]
  split
  · rename_i spent
    exact iff_of_true rfl spent
  · rename_i alive
    exact iff_of_false (by simp) alive

/-- A refused hop changes nothing. -/
theorem edited_hop_of_spent {packet : Ipv4Packet} (spent : packet.ttl ≤ 1) :
    packet.edited .hop = packet := by
  rw [edited, hopped?_eq_none_iff.mpr spent, Option.getD_none]

/-- What no edit may change of a packet, given that it reads back from its bytes. -/
structure Keeps (packet later : Ipv4Packet) : Prop where
  wellFormed : later.WellFormed
  headerLength : later.headerLength = packet.headerLength
  options : later.options = packet.options

namespace Keeps

variable {packet : Ipv4Packet}

/-- A packet that is left alone keeps what it has. -/
theorem refl (wellFormed : packet.WellFormed) : Keeps packet packet := ⟨wellFormed, rfl, rfl⟩

/-- What two edits keep, both together keep. -/
theorem trans {later last : Ipv4Packet} (first : Keeps packet later) (second : Keeps later last) :
    Keeps packet last where
  wellFormed := second.wellFormed
  headerLength := second.headerLength.trans first.headerLength
  options := second.options.trans first.options

variable (wellFormed : packet.WellFormed)
include wellFormed

/-- The options end where the header does. -/
theorem options_within : leastHeader + (packet.headerLength - leastHeader) ≤ packet.headerLength :=
  Nat.le_of_eq (Nat.add_sub_cancel' wellFormed.fits.1)

/-- A fixed field behind the lengths may change, and the checksum holds then. -/
theorem withField {offset : Nat} {field : Bytes} (behind : 4 ≤ offset)
    (fixed : offset + field.length ≤ leastHeader) :
    Keeps packet (packet.withField offset field) ∧
      (packet.withField offset field).headerVerifies := by
  have within : offset + field.length ≤ packet.headerLength :=
    Nat.le_trans fixed wellFormed.fits.1
  have inside := options_within wellFormed
  refine ⟨⟨wellFormed.withField behind within, rfl, ?_⟩, wellFormed.withField_verifies within⟩
  -- The options stand behind every fixed field.
  exact slice_withField_of_apart wellFormed.fits within inside (Or.inr (by decide)) (Or.inr fixed)

/-- The time to live may change. -/
theorem withTtl (ttl : UInt8) :
    Keeps packet (packet.withTtl ttl) ∧ (packet.withTtl ttl).headerVerifies :=
  withField wellFormed (by decide) (by simp [leastHeader])

/-- Either address may change. -/
theorem withAddress {offset : Nat} (address : Address .v4) (behind : 4 ≤ offset)
    (fixed : offset + 4 ≤ leastHeader) :
    Keeps packet (packet.withField offset address.octets) ∧
      (packet.withField offset address.octets).headerVerifies :=
  withField wellFormed behind (by rw [Address.octets_length]; exact fixed)

/-- The payload may change as far as its length can be told. -/
theorem withPayload {payload : Bytes} (short : payload.length ≤ 65535 - packet.headerLength) :
    Keeps packet (packet.withPayload payload) ∧ (packet.withPayload payload).headerVerifies := by
  have fits := wellFormed.fits
  have least : (20 : Nat) ≤ packet.headerLength := fits.1
  have narrow := wellFormed.header_short
  have replaced := fits.replaced payload
  have inside := options_within wellFormed
  refine ⟨⟨wellFormed.withPayload (by omega), rfl, ?_⟩, ?_⟩
  · -- Only the total length and the checksum are written in the header.
    exact slice_withPayload fits payload (by decide) inside
  · exact refreshed_verifies (replaced.patched (totalLength_within replaced _)) narrow

/-- A fresh checksum holds. -/
theorem refreshed : Keeps packet packet.refreshed ∧ packet.refreshed.headerVerifies := by
  have fits := wellFormed.fits
  have inside := options_within wellFormed
  refine ⟨⟨wellFormed.refreshed, rfl, ?_⟩, refreshed_verifies fits wellFormed.header_short⟩
  exact slice_refreshed fits inside (Or.inr (by decide))

/-- Every edit keeps what no edit may change, and unless it is refused the checksum holds then. -/
theorem edited {edit : Edit} (fits : edit.Fits packet.headerLength) :
    Keeps packet (packet.edited edit) ∧
      ((packet.edited edit).headerVerifies ∨ edit = .hop ∧ packet.ttl ≤ 1) := by
  -- Only a hop may be refused, and every other edit writes the checksum anew.
  cases edit with
  | hop =>
    by_cases spent : packet.ttl ≤ 1
    · rw [edited_hop_of_spent spent]
      exact ⟨refl wellFormed, Or.inr ⟨rfl, spent⟩⟩
    · have hopped : packet.edited .hop = packet.withTtl (packet.ttl - 1) := by
        rw [Ipv4Packet.edited, hopped?, if_neg spent, Option.getD_some]
      rw [hopped]
      exact (withTtl wellFormed (packet.ttl - 1)).imp_right Or.inl
  | ttl ttl => exact (withTtl wellFormed ttl).imp_right Or.inl
  | source source =>
    exact (withAddress wellFormed source (by decide) (by decide)).imp_right Or.inl
  | destination destination =>
    exact (withAddress wellFormed destination (by decide) (by decide)).imp_right Or.inl
  | payload payload => exact (withPayload wellFormed fits).imp_right Or.inl
  | checksum => exact (refreshed wellFormed).imp_right Or.inl

/-- Every sequence of edits keeps what no edit may change. -/
theorem run (edits : List Edit) (fit : ∀ edit ∈ edits, edit.Fits packet.headerLength) :
    Keeps packet (edits.foldl Ipv4Packet.edited packet) := by
  induction edits generalizing packet with
  | nil => exact refl wellFormed
  | cons edit rest ih =>
    have first := (edited wellFormed (fit edit List.mem_cons_self)).1
    -- The header stays as long as it is, so what fits before fits afterwards.
    refine first.trans (ih first.wellFormed fun later among => ?_)
    rw [first.headerLength]
    exact fit later (List.mem_cons_of_mem _ among)

end Keeps

/--
The header length that a packet carries along never drifts from its bytes, and neither do its length
field and its checksum.

After every edit of every sequence the packet is the one that its bytes read back as, with the header
length that its first byte tells, the total length that it has, and the options that it started with.
The header checksum holds after any edit but a refused hop.
A hop is refused exactly where the time to live is at most one, and changes nothing then.
A packet that is built reads back as what it was built from.
-/
theorem edited_stays_intact {packet : Ipv4Packet} (obtained : Obtained packet) (edits : List Edit)
    (fit : ∀ edit ∈ edits, edit.Fits packet.headerLength) :
    let last := edits.foldl edited packet
    (parse last.bytes = .ok last ∧
      last.headerLength = 4 * ((Bytes.byteAt last.bytes 0).toNat % 16) ∧
      last.totalLength.toNat = last.bytes.length ∧
      last.headerLength = packet.headerLength ∧ last.options = packet.options ∧
      (last.hopped? = none ↔ last.ttl ≤ 1) ∧ (last.ttl ≤ 1 → last.edited .hop = last) ∧
      ∀ edit : Edit, edit.Fits packet.headerLength →
        (last.edited edit).headerVerifies ∨ edit = .hop ∧ last.ttl ≤ 1) ∧
    ∀ draft : Ipv4Draft, draft.payload.length ≤ 65515 →
      parse draft.encode = .ok draft.toPacket ∧ draft.toPacket.toDraft = draft := by
  intro last
  constructor
  · -- The edits that fit the first packet fit the last one, whose header is as long.
    have kept : Keeps packet last := Keeps.run obtained.wellFormed edits fit
    have words := kept.wellFormed.words
    refine ⟨kept.wellFormed.parse, by omega, kept.wellFormed.total, kept.headerLength,
      kept.options, hopped?_eq_none_iff, edited_hop_of_spent, fun edit fits => ?_⟩
    rw [← kept.headerLength] at fits
    exact (Keeps.edited kept.wellFormed fits).2
  · -- What is built carries its options from the start, so nothing else has to be shown of it.
    intro draft short
    exact ⟨(Obtained.built draft short).wellFormed.parse, draft.toDraft_toPacket⟩

/-- A packet with a word of options, a checksum that does not hold, and padding behind it. -/
def strayed : Bytes :=
  [0x46, 0, 0, 26, 0, 7, 0x40, 0, 2, 17, 0xAB, 0xCD, 10, 0, 0, 1, 10, 0, 0, 2] ++ [1, 1, 1, 0] ++
    [8, 9] ++ [0, 0, 0]

/-- Two hops, of which the second is refused, and a longer payload leave the options of a packet alone
and put its checksum right. -/
theorem edited_strayed_intact : ∃ packet, parse strayed = .ok packet ∧ Obtained packet ∧
    packet.headerVerifies = false ∧
    let edits : List Edit := [.hop, .hop, .payload [1, 2, 3, 4, 5]]
    (∀ edit ∈ edits, edit.Fits packet.headerLength) ∧
    let last := edits.foldl edited packet
    parse last.bytes = .ok last ∧ last.totalLength.toNat = 29 ∧ last.ttl = 1 ∧
      last.options = [1, 1, 1, 0] ∧ last.edited .hop = last ∧
      (last.edited (.source (.ofNat 0x0A000003))).headerVerifies := by
  let packet : Ipv4Packet := ⟨strayed.take 26, 24⟩
  have read : parse strayed = .ok packet := by cbv
  have obtained : Obtained packet := .read read
  -- No edit here is too long for the header that it is made on.
  have fit : ∀ edit ∈ [Edit.hop, .hop, .payload [1, 2, 3, 4, 5]], edit.Fits packet.headerLength := by
    intro edit among
    simp only [List.mem_cons, List.not_mem_nil, or_false] at among
    rcases among with rfl | rfl | rfl
    · trivial
    · trivial
    · show 5 ≤ 65535 - 24
      decide
  -- The general statement leaves the figures of the last packet, which are computed.
  obtain ⟨⟨reads, -, total, -, options, -, refused, verifies⟩, -⟩ :=
    edited_stays_intact obtained _ fit
  have spent : ([Edit.hop, .hop, .payload [1, 2, 3, 4, 5]].foldl edited packet).ttl = 1 := by cbv
  refine ⟨packet, read, obtained, by cbv, fit, reads, total.trans (by cbv), spent,
    options.trans (by cbv), refused (by rw [spent]; decide), ?_⟩
  exact (verifies (.source (.ofNat 0x0A000003)) trivial).resolve_right (by simp)

end Ipv4Packet

end NetworkLayer
