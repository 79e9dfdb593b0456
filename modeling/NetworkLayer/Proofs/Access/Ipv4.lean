import NetworkLayer.Proofs.Access.Checked
import NetworkLayer.Proofs.Ipv4

/-!
IPv4 packets, read, edited and built with every access checked. No access to a packet with a header
that fits goes wrong.
-/

namespace NetworkLayer

namespace Ipv4Packet

/-- Reads a packet. -/
def checkedParse (data : Bytes) : Checked (Except Error Ipv4Packet) :=
  if data.length < leastHeader then .ok (.error (.tooShort .ipv4Packet))
  else do
    let first ← Checked.byte data 0
    -- The first byte is read only where a whole fixed header is there.
    let headerLength := first.toNat % 16 * 4
    if first.toNat / 16 ≠ 4 then .ok (.error (.version .v4))
    else if headerLength < leastHeader ∨ data.length < headerLength then
      .ok (.error .ipv4HeaderTruncated)
    else do
      let total := (← Checked.word data 2).toNat
      if total < headerLength ∨ data.length < total then
        .ok (.error (.ipv4TotalLength total data.length))
      else do
        return .ok ⟨← Checked.range data 0 total, headerLength⟩

/-- Time to live. -/
def checkedTtl (packet : Ipv4Packet) : Checked UInt8 := Checked.byte packet.bytes 8

/-- Number of the upper-layer protocol. -/
def checkedProtocol (packet : Ipv4Packet) : Checked UInt8 := Checked.byte packet.bytes 9

/-- Where the packet comes from. -/
def checkedSource (packet : Ipv4Packet) : Checked (Address .v4) := Checked.address packet.bytes 12

/-- Where the packet goes. -/
def checkedDestination (packet : Ipv4Packet) : Checked (Address .v4) :=
  Checked.address packet.bytes 16

/-- The header bytes, options included. -/
def checkedHeader (packet : Ipv4Packet) : Checked Bytes :=
  Checked.range packet.bytes 0 packet.headerLength

/-- What the packet carries. -/
def checkedPayload (packet : Ipv4Packet) : Checked Bytes :=
  Checked.rest packet.bytes packet.headerLength

/-- The packet with a fresh header checksum. -/
def checkedRefreshed (packet : Ipv4Packet) : Checked Ipv4Packet := do
  let blank ← Checked.write packet.bytes 10 2 [0, 0]
  let header ← Checked.range blank 0 packet.headerLength
  return { packet with
    bytes := ← Checked.write blank 10 2 (Bytes.ofWord (Checksum.ofBytes header)) }

/-- The packet with a header field of a given width replaced and a fresh checksum. -/
def checkedWithField (packet : Ipv4Packet) (offset width : Nat) (field : Bytes) :
    Checked Ipv4Packet := do
  checkedRefreshed { packet with bytes := ← Checked.write packet.bytes offset width field }

/-- The packet one hop on, unless its time to live is used up. -/
def checkedHopped? (packet : Ipv4Packet) : Checked (Option Ipv4Packet) := do
  let ttl ← packet.checkedTtl
  if ttl ≤ 1 then .ok none
  else do
    let less ← Checked.countDown ttl
    return some (← packet.checkedWithField 8 1 [less])

/-- The packet from another source. -/
def checkedWithSource (packet : Ipv4Packet) (source : Address .v4) : Checked Ipv4Packet :=
  packet.checkedWithField 12 4 source.octets

/-- The packet to another destination. -/
def checkedWithDestination (packet : Ipv4Packet) (destination : Address .v4) :
    Checked Ipv4Packet :=
  packet.checkedWithField 16 4 destination.octets

/-- The packet with another payload and the total length that fits it. -/
def checkedWithPayload (packet : Ipv4Packet) (payload : Bytes) : Checked Ipv4Packet :=
  let bytes := packet.header ++ payload
  { packet with bytes }.checkedWithField 2 2 (Bytes.ofWord (UInt16.ofNat bytes.length))

/-- Whatever is read, no access to it goes wrong. -/
theorem checkedParse_eq (data : Bytes) : checkedParse data = .ok (parse data) := by
  rw [checkedParse, parse]
  by_cases short : data.length < leastHeader
  · rw [if_pos short, if_pos short]
  have room : 20 ≤ data.length := Nat.le_of_not_lt short
  rw [if_neg short, if_neg short, Checked.byte_ok (by omega), Checked.ok_bind]
  -- Every test that the reader passes leaves room for what it reads next.
  simp only
  by_cases other : (Bytes.byteAt data 0).toNat / 16 ≠ 4
  · rw [if_pos other, if_pos other]
  rw [if_neg other, if_neg other]
  by_cases truncated : (Bytes.byteAt data 0).toNat % 16 * 4 < leastHeader ∨
      data.length < (Bytes.byteAt data 0).toNat % 16 * 4
  · rw [if_pos truncated, if_pos truncated]
  rw [if_neg truncated, if_neg truncated, Checked.word_ok (by omega), Checked.ok_bind]
  by_cases unfit : (Bytes.wordAt data 2).toNat < (Bytes.byteAt data 0).toNat % 16 * 4 ∨
      data.length < (Bytes.wordAt data 2).toNat
  · rw [if_pos unfit, if_pos unfit]
  · rw [if_neg unfit, if_neg unfit, Checked.range_ok (by omega), Checked.ok_bind]
    rfl

section Fits

variable {packet : Ipv4Packet} (fits : packet.HeaderFits)
include fits

/-- The fixed header lies within the packet. -/
theorem fixed_within : 20 ≤ packet.bytes.length :=
  Nat.le_trans fits.1 fits.2

/-- The time to live is there. -/
theorem checkedTtl_eq : packet.checkedTtl = .ok packet.ttl :=
  Checked.byte_ok (Nat.lt_of_lt_of_le (by decide) (fixed_within fits))

/-- The protocol is there. -/
theorem checkedProtocol_eq : packet.checkedProtocol = .ok packet.protocol :=
  Checked.byte_ok (Nat.lt_of_lt_of_le (by decide) (fixed_within fits))

/-- The source is there. -/
theorem checkedSource_eq : packet.checkedSource = .ok packet.source :=
  Checked.address_ok (Nat.le_trans (by decide) (fixed_within fits))

/-- The destination is there. -/
theorem checkedDestination_eq : packet.checkedDestination = .ok packet.destination :=
  Checked.address_ok (Nat.le_trans (by decide) (fixed_within fits))

/-- The header is there. -/
theorem checkedHeader_eq : packet.checkedHeader = .ok packet.header := by
  rw [checkedHeader, Checked.range_ok (by rw [Nat.zero_add]; exact fits.2)]
  rfl

/-- The payload is there. -/
theorem checkedPayload_eq : packet.checkedPayload = .ok packet.payload :=
  Checked.rest_ok fits.2

/-- The header checksum can be renewed. -/
theorem checkedRefreshed_eq : packet.checkedRefreshed = .ok packet.refreshed := by
  have room := fixed_within fits
  have inside : 10 + 2 ≤ packet.header.length := checksum_within fits
  have blankLength : (Bytes.patch packet.header 10 [0, 0]).length = packet.headerLength := by
    rw [Bytes.patch_length inside, header_length fits]
  -- Both writes stay within the header, so the payload behind it is left alone.
  have blank : Bytes.patch packet.bytes 10 [0, 0] =
      Bytes.patch packet.header 10 [0, 0] ++ packet.payload := by
    have whole : packet.header ++ packet.payload = packet.bytes := List.take_append_drop ..
    rw [← Bytes.patch_append packet.payload inside, whole]
  have header : Bytes.slice (Bytes.patch packet.header 10 [0, 0] ++ packet.payload) 0
      packet.headerLength = Bytes.patch packet.header 10 [0, 0] :=
    List.take_left' blankLength
  have least : (20 : Nat) ≤ packet.headerLength := fits.1
  rw [checkedRefreshed, Checked.write_ok (show [0, 0].length = 2 from rfl)
      (Nat.le_trans (by decide) room), Checked.ok_bind, blank,
    Checked.range_ok (by rw [List.length_append, blankLength]; omega), Checked.ok_bind, header,
    Checked.write_ok (Bytes.ofWord_length _) (by rw [List.length_append, blankLength]; omega),
    Checked.ok_bind, Bytes.patch_append _ (by rw [Bytes.ofWord_length, blankLength]; omega)]
  rfl

/-- A header field can be replaced. -/
theorem checkedWithField_eq {offset width : Nat} {field : Bytes} (full : field.length = width)
    (within : offset + width ≤ packet.headerLength) :
    packet.checkedWithField offset width field = .ok (packet.withField offset field) := by
  -- The header is as long as before, so its checksum has its place.
  have patched : HeaderFits { packet with bytes := Bytes.patch packet.bytes offset field } :=
    fits.patched (by rw [full]; exact within)
  rw [checkedWithField, Checked.write_ok full (Nat.le_trans within fits.2), Checked.ok_bind,
    checkedRefreshed_eq patched]
  rfl

/-- A packet can make a hop. -/
theorem checkedHopped?_eq : packet.checkedHopped? = .ok packet.hopped? := by
  have least : (20 : Nat) ≤ packet.headerLength := fits.1
  rw [checkedHopped?, checkedTtl_eq fits, Checked.ok_bind, hopped?]
  by_cases spent : packet.ttl ≤ 1
  · rw [if_pos spent, if_pos spent]
  -- The count is above one here, so it can go down.
  · have positive : packet.ttl ≠ 0 := fun zero => spent (by rw [zero]; decide)
    rw [if_neg spent, if_neg spent, Checked.countDown_ok positive, Checked.ok_bind,
      checkedWithField_eq fits (show [packet.ttl - 1].length = 1 from rfl) (by omega)]
    rfl

/-- The source can be replaced. -/
theorem checkedWithSource_eq (source : Address .v4) :
    packet.checkedWithSource source = .ok (packet.withSource source) :=
  checkedWithField_eq fits (Address.octets_length source) (Nat.le_trans (by decide) fits.1)

/-- The destination can be replaced. -/
theorem checkedWithDestination_eq (destination : Address .v4) :
    packet.checkedWithDestination destination = .ok (packet.withDestination destination) :=
  checkedWithField_eq fits (Address.octets_length destination) (Nat.le_trans (by decide) fits.1)

/-- The payload can be replaced. -/
theorem checkedWithPayload_eq (payload : Bytes) :
    packet.checkedWithPayload payload = .ok (packet.withPayload payload) :=
  checkedWithField_eq (fits.replaced payload) (Bytes.ofWord_length _)
    (Nat.le_trans (by decide) fits.1)

end Fits

end Ipv4Packet

namespace Ipv4Draft

/-- The header before its checksum is written, field by field into an empty one. -/
def checkedFields (draft : Ipv4Draft) : Checked Bytes := do
  let total := UInt16.ofNat (Ipv4Packet.leastHeader + draft.payload.length)
  let header ← Checked.write (Bytes.zeros Ipv4Packet.leastHeader) 0 1 [0x45]
  let header ← Checked.write header 2 2 (Bytes.ofWord total)
  let header ← Checked.write header 4 2 (Bytes.ofWord draft.identification)
  let header ← Checked.write header 6 1 [if draft.dontFragment then 0x40 else 0]
  let header ← Checked.write header 8 1 [draft.ttl]
  let header ← Checked.write header 9 1 [draft.protocol]
  let header ← Checked.write header 12 4 draft.source.octets
  Checked.write header 16 4 draft.destination.octets

/-- The packet itself. -/
def checkedToPacket (draft : Ipv4Draft) : Checked Ipv4Packet := do
  let fields ← draft.checkedFields
  let header ← Checked.write fields 10 2 (Bytes.ofWord (Checksum.ofBytes fields))
  return ⟨header ++ draft.payload, Ipv4Packet.leastHeader⟩

/-- The fields fit an empty header, and they leave the place of the checksum empty. -/
theorem checkedFields_eq (draft : Ipv4Draft) :
    draft.checkedFields = .ok draft.fields ∧ Bytes.patch draft.fields 10 [0, 0] = draft.fields := by
  obtain ⟨totalHigh, totalLow, total⟩ :=
    Bytes.ofWord_pair (UInt16.ofNat (Ipv4Packet.leastHeader + draft.payload.length))
  obtain ⟨idHigh, idLow, identification⟩ := Bytes.ofWord_pair draft.identification
  obtain ⟨s₁, s₂, s₃, s₄, source⟩ := draft.source.octets_quad
  obtain ⟨d₁, d₂, d₃, d₄, destination⟩ := draft.destination.octets_quad
  -- All widths are known, so both sides spell the same twenty bytes.
  simp only [checkedFields, fields, total, identification, source, destination]
  simp [Checked.write, Checked.filling, Bytes.patch, Bytes.zeros, Ipv4Packet.leastHeader,
    List.replicate]

/-- A packet can be built. -/
theorem checkedToPacket_eq (draft : Ipv4Draft) : draft.checkedToPacket = .ok draft.toPacket := by
  obtain ⟨made, blank⟩ := draft.checkedFields_eq
  -- The checksum is taken over the fields as they are, since its own bytes are still zero.
  have header : draft.header =
      Bytes.patch draft.fields 10 (Bytes.ofWord (Checksum.ofBytes draft.fields)) := by
    show Checksum.stamp draft.fields 10 = _
    rw [Checksum.stamp]
    simp only [blank]
  rw [checkedToPacket, made, Checked.ok_bind, Checked.write_ok (Bytes.ofWord_length _)
    (by rw [fields_length]; decide), Checked.ok_bind, ← header]
  rfl

end Ipv4Draft

end NetworkLayer
