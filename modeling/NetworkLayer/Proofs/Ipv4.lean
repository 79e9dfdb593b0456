import NetworkLayer.Ipv4
import NetworkLayer.Proofs.Address
import NetworkLayer.Proofs.Checksum

/-!
Edits of IPv4 packets: what is written into a header field reads back, and the other fields and the
payload stay as they are. What reading makes of a byte string is well formed, and edits keep it so.
-/

namespace NetworkLayer.Ipv4Packet

/-- The header has room for its fixed fields and lies within the packet. -/
def HeaderFits (packet : Ipv4Packet) : Prop :=
  leastHeader ≤ packet.headerLength ∧ packet.headerLength ≤ packet.bytes.length

/-- Reading a packet checks that its header fits. -/
theorem parse_headerFits {data : Bytes} {packet : Ipv4Packet} (read : parse data = .ok packet) :
    packet.HeaderFits := by
  simp only [parse] at read
  -- Only a packet that passes all four checks is read.
  split at read
  · cases read
  split at read
  · cases read
  split at read
  · cases read
  split at read
  · cases read
  rename_i long enough
  cases read
  simp only [HeaderFits, List.length_take]
  omega

/-- The header is as long as the packet says. -/
theorem header_length {packet : Ipv4Packet} (fits : packet.HeaderFits) :
    packet.header.length = packet.headerLength :=
  List.length_take_of_le fits.2

/-- The checksum word lies within the header. -/
theorem checksum_within {packet : Ipv4Packet} (fits : packet.HeaderFits) :
    10 + 2 ≤ packet.header.length := by
  have room : 20 ≤ packet.headerLength := fits.1
  rw [header_length fits]
  omega

/-- A fresh checksum leaves the length of the header alone. -/
theorem stamped_length {packet : Ipv4Packet} (fits : packet.HeaderFits) :
    (Checksum.stamp packet.header 10).length = packet.headerLength := by
  rw [Checksum.stamp_length (checksum_within fits), header_length fits]

/-- A packet with a fresh checksum has a header that fits. -/
theorem HeaderFits.refreshed {packet : Ipv4Packet} (fits : packet.HeaderFits) :
    packet.refreshed.HeaderFits := by
  -- The checksum is part of the header, so the packet is as long as before.
  refine ⟨fits.1, ?_⟩
  simp only [Ipv4Packet.refreshed, List.length_append, stamped_length fits]
  exact Nat.le_add_right _ _

/-- A fresh checksum leaves the payload alone. -/
theorem refreshed_payload {packet : Ipv4Packet} (fits : packet.HeaderFits) :
    packet.refreshed.payload = packet.payload := by
  -- The payload starts where the header ends, before and after.
  simp only [payload, refreshed]
  exact List.drop_left' (stamped_length fits)

/-- A fresh checksum leaves the other header fields alone. -/
theorem slice_refreshed {packet : Ipv4Packet} (fits : packet.HeaderFits) {start width : Nat}
    (within : start + width ≤ packet.headerLength)
    (apart : start + width ≤ 10 ∨ 12 ≤ start) :
    Bytes.slice packet.refreshed.bytes start width = Bytes.slice packet.bytes start width := by
  -- The slice lies in the header, apart from its checksum.
  rw [refreshed, Bytes.slice_append_left _ (by rw [stamped_length fits]; exact within),
    Checksum.slice_stamp_of_apart (checksum_within fits) apart, header, Bytes.slice_take _ within]

/-- A fresh checksum leaves the length of the packet alone. -/
theorem refreshed_length {packet : Ipv4Packet} (fits : packet.HeaderFits) :
    packet.refreshed.bytes.length = packet.bytes.length := by
  have room := fits.2
  simp only [refreshed, List.length_append, stamped_length fits, payload, List.length_drop]
  omega

/-- What is taken off as the header behind a fresh checksum is exactly what was stamped. -/
theorem refreshed_header {packet : Ipv4Packet} (fits : packet.HeaderFits) :
    packet.refreshed.header = Checksum.stamp packet.header 10 :=
  List.take_left' (stamped_length fits)

/-- A fresh checksum of a header that is no longer than its count of words can tell holds. -/
theorem refreshed_verifies {packet : Ipv4Packet} (fits : packet.HeaderFits)
    (short : packet.headerLength ≤ 60) : packet.refreshed.headerVerifies := by
  rw [headerVerifies, refreshed_header fits]
  refine Checksum.verifies_stamp (checksum_within fits) (by decide) ?_
  rw [header_length fits]
  omega

section Field

variable {packet : Ipv4Packet} {offset : Nat} {field : Bytes}

/-- A patched header still fits. -/
theorem HeaderFits.patched (fits : packet.HeaderFits)
    (within : offset + field.length ≤ packet.headerLength) :
    HeaderFits { packet with bytes := Bytes.patch packet.bytes offset field } := by
  have inside : offset + field.length ≤ packet.bytes.length := Nat.le_trans within fits.2
  exact ⟨fits.1, by simpa only [Bytes.patch_length inside] using fits.2⟩

/-- A packet with another header field has a header that fits. -/
theorem HeaderFits.withField (fits : packet.HeaderFits)
    (within : offset + field.length ≤ packet.headerLength) :
    (packet.withField offset field).HeaderFits :=
  (fits.patched within).refreshed

/-- Another header field leaves the payload alone. -/
theorem withField_payload (fits : packet.HeaderFits)
    (within : offset + field.length ≤ packet.headerLength) :
    (packet.withField offset field).payload = packet.payload := by
  have room := fits.2
  -- The field ends before the payload starts.
  rw [withField, refreshed_payload (fits.patched within)]
  exact Bytes.drop_patch field (by omega) within

/-- Another header field leaves the fields apart from it alone. -/
theorem slice_withField_of_apart (fits : packet.HeaderFits)
    (within : offset + field.length ≤ packet.headerLength) {start width : Nat}
    (inside : start + width ≤ packet.headerLength) (clear : start + width ≤ 10 ∨ 12 ≤ start)
    (apart : start + width ≤ offset ∨ offset + field.length ≤ start) :
    Bytes.slice (packet.withField offset field).bytes start width =
      Bytes.slice packet.bytes start width := by
  have room := fits.2
  rw [withField, slice_refreshed (fits.patched within) inside clear]
  exact Bytes.slice_patch_of_apart field (by omega) apart

/-- Another header field leaves the length of the packet alone. -/
theorem withField_length (fits : packet.HeaderFits)
    (within : offset + field.length ≤ packet.headerLength) :
    (packet.withField offset field).bytes.length = packet.bytes.length :=
  (refreshed_length (fits.patched within)).trans
    (Bytes.patch_length (Nat.le_trans within fits.2))

/-- Another header field leaves every byte alone but those of the field and of the checksum. -/
theorem withField_getElem? (fits : packet.HeaderFits)
    (within : offset + field.length ≤ packet.headerLength) {index : Nat}
    (clear : index < 10 ∨ 12 ≤ index) (apart : index < offset ∨ offset + field.length ≤ index) :
    (packet.withField offset field).bytes[index]? = packet.bytes[index]? := by
  rcases Nat.lt_or_ge index packet.headerLength with inside | behind
  · exact Bytes.getElem?_of_slice (slice_withField_of_apart fits within inside clear apart)
  · -- Behind the header stands the payload, which is left alone.
    have kept := congrArg (·[index - packet.headerLength]?) (withField_payload fits within)
    have header : (packet.withField offset field).headerLength = packet.headerLength := rfl
    simpa only [payload, header, List.getElem?_drop, Nat.add_sub_cancel' behind] using kept

/-- A header field reads back, unless it is the checksum itself. -/
theorem slice_withField (fits : packet.HeaderFits)
    (within : offset + field.length ≤ packet.headerLength)
    (clear : offset + field.length ≤ 10 ∨ 12 ≤ offset) :
    Bytes.slice (packet.withField offset field).bytes offset field.length = field := by
  have room := fits.2
  -- The checksum that follows is written elsewhere.
  rw [withField, slice_refreshed (fits.patched within) within clear]
  exact Bytes.slice_patch field (by omega)

end Field

section Edits

variable {packet : Ipv4Packet} (fits : packet.HeaderFits)
include fits

/-- An address field behind the checksum lies within the header. -/
theorem address_within (address : Address .v4) (offset : Nat) (fixed : offset + 4 ≤ leastHeader) :
    offset + address.octets.length ≤ packet.headerLength := by
  have room := fits.1
  -- Four bytes that are fixed in every header are there in this one.
  rw [Address.octets_length]
  exact Nat.le_trans fixed room

/-- A packet from another source has a header that fits. -/
theorem HeaderFits.withSource (source : Address .v4) : (packet.withSource source).HeaderFits :=
  fits.withField (address_within fits source 12 (by decide))

/-- The new source reads back. -/
theorem withSource_source (source : Address .v4) :
    (packet.withSource source).source = source := by
  -- The octets that were written are the ones that are read.
  have read := slice_withField fits (address_within fits source 12 (by decide))
    (Or.inr (by decide))
  exact Address.readAt_of_slice (by rwa [Address.octets_length] at read)

/-- A new source leaves the destination alone. -/
theorem withSource_destination (source : Address .v4) :
    (packet.withSource source).destination = packet.destination := by
  have room : 20 ≤ packet.headerLength := fits.1
  -- The destination stands behind the source.
  exact Address.readAt_congr (slice_withField_of_apart fits
    (address_within fits source 12 (by decide)) room (Or.inr (by decide))
    (Or.inr (by rw [Address.octets_length]; decide)))

/-- A new source leaves the payload alone. -/
theorem withSource_payload (source : Address .v4) :
    (packet.withSource source).payload = packet.payload :=
  withField_payload fits (address_within fits source 12 (by decide))

/-- The new destination reads back. -/
theorem withDestination_destination (destination : Address .v4) :
    (packet.withDestination destination).destination = destination := by
  have read := slice_withField fits (address_within fits destination 16 (by decide))
    (Or.inr (by decide))
  exact Address.readAt_of_slice (by rwa [Address.octets_length] at read)

/-- A new destination leaves the source alone. -/
theorem withDestination_source (destination : Address .v4) :
    (packet.withDestination destination).source = packet.source := by
  have room : 20 ≤ packet.headerLength := fits.1
  -- The source stands in front of the destination.
  exact Address.readAt_congr (slice_withField_of_apart fits
    (address_within fits destination 16 (by decide)) (show 12 + 4 ≤ _ by omega)
    (Or.inr (by decide)) (Or.inl (by decide)))

/-- A new destination leaves the payload alone. -/
theorem withDestination_payload (destination : Address .v4) :
    (packet.withDestination destination).payload = packet.payload :=
  withField_payload fits (address_within fits destination 16 (by decide))

/-- The header in front of any payload fits. -/
theorem HeaderFits.replaced (payload : Bytes) :
    HeaderFits { packet with bytes := packet.header ++ payload } := by
  -- The header stays, whatever follows it.
  refine ⟨fits.1, ?_⟩
  rw [List.length_append, header_length fits]
  exact Nat.le_add_right _ _

/-- The total length lies within the header. -/
theorem totalLength_within (word : UInt16) :
    2 + (Bytes.ofWord word).length ≤ packet.headerLength := by
  have room : 20 ≤ packet.headerLength := fits.1
  rw [Bytes.ofWord_length]
  omega

/-- A packet with another payload has a header that fits. -/
theorem HeaderFits.withPayload (payload : Bytes) : (packet.withPayload payload).HeaderFits :=
  (fits.replaced payload).withField (totalLength_within (fits.replaced payload) _)

/-- The new payload reads back. -/
theorem withPayload_payload (payload : Bytes) :
    (packet.withPayload payload).payload = payload := by
  rw [withPayload, withField_payload (fits.replaced payload)
    (totalLength_within (fits.replaced payload) _)]
  -- The header is exactly as long as what is dropped in front of the payload.
  exact List.drop_left' (header_length fits)

/-- A new payload leaves the header fields alone that are neither length nor checksum. -/
theorem slice_withPayload (payload : Bytes) {start width : Nat} (behind : 12 ≤ start)
    (within : start + width ≤ packet.headerLength) :
    Bytes.slice (packet.withPayload payload).bytes start width =
      Bytes.slice packet.bytes start width := by
  -- The header is only patched in its length, and the payload stands behind it.
  rw [withPayload, slice_withField_of_apart (fits.replaced payload)
    (totalLength_within (fits.replaced payload) _) within (Or.inr behind)
    (Or.inr (by rw [Bytes.ofWord_length]; omega)),
    Bytes.slice_append_left _ (by rw [header_length fits]; exact within), header,
    Bytes.slice_take _ within]

/-- A new payload leaves every byte of the header alone but the total length and the checksum. -/
theorem withPayload_getElem? (payload : Bytes) {index : Nat} (inside : index < packet.headerLength)
    (apart : index < 2 ∨ 4 ≤ index) (clear : index < 10 ∨ 12 ≤ index) :
    (packet.withPayload payload).bytes[index]? = packet.bytes[index]? := by
  have room : index < packet.header.length := by
    rw [header_length fits]
    exact inside
  -- The header is copied but for two fields, and the index is in neither.
  rw [withPayload, withField_getElem? (fits.replaced payload)
    (totalLength_within (fits.replaced payload) _) clear (by rw [Bytes.ofWord_length]; exact apart)]
  simp only
  rw [List.getElem?_append_left room, header, List.getElem?_take_of_lt inside]

/-- A packet with a new payload is the header in front of it. -/
theorem withPayload_length (payload : Bytes) :
    (packet.withPayload payload).bytes.length = packet.headerLength + payload.length := by
  rw [withPayload, withField_length (fits.replaced payload)
    (totalLength_within (fits.replaced payload) _), List.length_append, header_length fits]

/-- A new payload leaves the source alone. -/
theorem withPayload_source (payload : Bytes) :
    (packet.withPayload payload).source = packet.source :=
  Address.readAt_congr (slice_withPayload fits payload (by decide)
    (Nat.le_trans (by decide) fits.1))

/-- A new payload leaves the destination alone. -/
theorem withPayload_destination (payload : Bytes) :
    (packet.withPayload payload).destination = packet.destination :=
  Address.readAt_congr (slice_withPayload fits payload (by decide)
    (Nat.le_trans (by decide) fits.1))

end Edits

/-- A packet that reads back: its first byte tells the length of its header, and its length field
that of the whole. -/
structure WellFormed (packet : Ipv4Packet) : Prop where
  fits : packet.HeaderFits
  version : (Bytes.byteAt packet.bytes 0).toNat / 16 = 4
  words : (Bytes.byteAt packet.bytes 0).toNat % 16 * 4 = packet.headerLength
  total : (Bytes.wordAt packet.bytes 2).toNat = packet.bytes.length

/-- What is read is well formed, and it is the part of the data that its length field declares. -/
theorem parse_cases {data : Bytes} {packet : Ipv4Packet} (read : parse data = .ok packet) :
    packet.WellFormed ∧ packet.bytes = data.take (Bytes.wordAt data 2).toNat ∧
      (Bytes.wordAt data 2).toNat ≤ data.length := by
  have fits := parse_headerFits read
  -- A refused text contradicts what was read, so each test that is made has passed.
  simp only [parse] at read
  split at read
  · cases read
  split at read
  · cases read
  rename_i versioned
  split at read
  · cases read
  rename_i headed
  split at read
  · cases read
  rename_i declared
  cases read
  have least : leastHeader = 20 := rfl
  refine ⟨⟨fits, ?_, ?_, ?_⟩, rfl, by omega⟩
  · -- The first bytes and the length lie in front of the cut, so the packet shows them like the data.
    rw [Bytes.byteAt_take data (by omega)]
    exact Decidable.not_not.mp versioned
  · rw [Bytes.byteAt_take data (by omega)]
  · rw [Bytes.wordAt_take data (by omega), List.length_take_of_le (by omega)]

namespace WellFormed

variable {packet : Ipv4Packet} (wellFormed : packet.WellFormed)
include wellFormed

/-- The header has no more bytes than its four-bit count of words can tell. -/
theorem header_short : packet.headerLength ≤ 60 := by
  have words := wellFormed.words
  omega

/-- The payload leaves room for a header in the total length. -/
theorem payload_short : packet.payload.length ≤ 65515 := by
  have least : (20 : Nat) ≤ packet.headerLength := wellFormed.fits.1
  have total := wellFormed.total
  have word := (Bytes.wordAt packet.bytes 2).toNat_lt
  rw [Ipv4Packet.payload, List.length_drop]
  omega

/-- A well-formed packet reads back from its bytes, whatever padding stands behind them. -/
theorem parse_append (padding : Bytes) : Ipv4Packet.parse (packet.bytes ++ padding) = .ok packet := by
  obtain ⟨least, within⟩ := wellFormed.fits
  have wide : leastHeader = 20 := rfl
  -- Version and lengths stand in the header, in front of the padding.
  have first : Bytes.byteAt (packet.bytes ++ padding) 0 = Bytes.byteAt packet.bytes 0 :=
    Bytes.byteAt_append_left padding (by omega)
  have total : (Bytes.wordAt (packet.bytes ++ padding) 2).toNat = packet.bytes.length := by
    rw [Bytes.wordAt, Bytes.slice_append_left padding (by omega)]
    exact wellFormed.total
  have long : packet.bytes.length ≤ (packet.bytes ++ padding).length := by
    rw [List.length_append]
    omega
  simp only [Ipv4Packet.parse, first, wellFormed.version, wellFormed.words, total, ne_eq,
    not_true_eq_false, if_false, List.take_left]
  rw [if_neg (by omega), if_neg (by omega), if_neg (by omega)]

/-- A well-formed packet reads back from its bytes. -/
theorem parse : Ipv4Packet.parse packet.bytes = .ok packet := by
  have read := wellFormed.parse_append []
  rwa [List.append_nil] at read

/-- A header field behind the lengths may change. -/
theorem withField {offset : Nat} {field : Bytes} (behind : 4 ≤ offset)
    (within : offset + field.length ≤ packet.headerLength) :
    (packet.withField offset field).WellFormed := by
  have least : (20 : Nat) ≤ packet.headerLength := wellFormed.fits.1
  -- The first byte and the total length lie in front of the field.
  have first : Bytes.byteAt (packet.withField offset field).bytes 0 =
      Bytes.byteAt packet.bytes 0 :=
    Bytes.byteAt_congr
      (withField_getElem? wellFormed.fits within (Or.inl (by omega)) (Or.inl (by omega)))
  refine ⟨wellFormed.fits.withField within, ?_, ?_, ?_⟩
  · rw [first]
    exact wellFormed.version
  · rw [first]
    exact wellFormed.words
  · rw [withField_length wellFormed.fits within, Bytes.wordAt,
      slice_withField_of_apart wellFormed.fits within (by omega) (Or.inl (by decide))
        (Or.inl behind)]
    exact wellFormed.total

/-- A payload may change as long as the total length still fits its field. -/
theorem withPayload {payload : Bytes} (short : packet.headerLength + payload.length < 65536) :
    (packet.withPayload payload).WellFormed := by
  have fits := wellFormed.fits
  have least : (20 : Nat) ≤ packet.headerLength := fits.1
  have first : Bytes.byteAt (packet.withPayload payload).bytes 0 = Bytes.byteAt packet.bytes 0 :=
    Bytes.byteAt_congr (withPayload_getElem? fits payload (by omega) (Or.inl (by decide))
      (Or.inl (by decide)))
  refine ⟨fits.withPayload payload, ?_, ?_, ?_⟩
  · rw [first]
    exact wellFormed.version
  · rw [first]
    exact wellFormed.words
  · -- The total length that was written is the one that is read.
    have written := slice_withField (fits.replaced payload)
      (totalLength_within (fits.replaced payload)
        (UInt16.ofNat (packet.header ++ payload).length)) (Or.inl (by simp))
    rw [Bytes.ofWord_length] at written
    rw [withPayload_length fits, Bytes.wordAt, Ipv4Packet.withPayload, written,
      Bytes.ofNat_value_ofWord, List.length_append, header_length fits]
    exact UInt16.toNat_ofNat_of_lt' short

/-- A payload may be rewritten in place. -/
theorem withPayload_of_length {payload : Bytes} (same : payload.length = packet.payload.length) :
    (packet.withPayload payload).WellFormed := by
  -- The length did fit, and it is the same.
  have room := wellFormed.fits.2
  have total := wellFormed.total
  have word := (Bytes.wordAt packet.bytes 2).toNat_lt
  refine wellFormed.withPayload ?_
  rw [same, Ipv4Packet.payload, List.length_drop]
  omega

/-- Another time to live keeps a packet well formed. -/
theorem withTtl (ttl : UInt8) : (packet.withTtl ttl).WellFormed :=
  wellFormed.withField (by decide) (Nat.le_trans (by simp [leastHeader]) wellFormed.fits.1)

/-- A fresh checksum keeps a packet well formed. -/
theorem refreshed : packet.refreshed.WellFormed := by
  have fits := wellFormed.fits
  have least : (20 : Nat) ≤ packet.headerLength := fits.1
  -- The checksum stands behind the first byte and the total length.
  have first : Bytes.byteAt packet.refreshed.bytes 0 = Bytes.byteAt packet.bytes 0 :=
    Bytes.byteAt_congr (Bytes.getElem?_of_slice
      (slice_refreshed fits (by omega) (Or.inl (by decide))))
  refine ⟨fits.refreshed, ?_, ?_, ?_⟩
  · rw [first]
    exact wellFormed.version
  · rw [first]
    exact wellFormed.words
  · rw [refreshed_length fits, Bytes.wordAt,
      slice_refreshed fits (by omega) (Or.inl (by decide))]
    exact wellFormed.total

/-- The checksum of the header holds after an edit. -/
theorem withField_verifies {offset : Nat} {field : Bytes}
    (within : offset + field.length ≤ packet.headerLength) :
    (packet.withField offset field).headerVerifies :=
  refreshed_verifies (wellFormed.fits.patched within) wellFormed.header_short

end WellFormed

end NetworkLayer.Ipv4Packet

namespace NetworkLayer.Ipv4Draft

variable (draft : Ipv4Draft)

/-- The header before its checksum is written. -/
def fields : Bytes :=
  [0x45, 0] ++ Bytes.ofWord (UInt16.ofNat (Ipv4Packet.leastHeader + draft.payload.length)) ++
    Bytes.ofWord draft.identification ++
    [if draft.dontFragment then 0x40 else 0, 0, draft.ttl, draft.protocol, 0, 0] ++
    draft.source.octets ++ draft.destination.octets

/-- The fields take the least size of a header. -/
theorem fields_length : draft.fields.length = Ipv4Packet.leastHeader := by
  simp [fields, Family.bits, Ipv4Packet.leastHeader]

/-- The checksum word lies within the fields. -/
theorem checksum_within : 10 + 2 ≤ draft.fields.length := by
  rw [fields_length]
  decide

/-- The header has its least size. -/
theorem header_length : draft.header.length = Ipv4Packet.leastHeader :=
  (Checksum.stamp_length draft.checksum_within).trans draft.fields_length

/-- The checksum of the header holds. -/
theorem header_verifies : Checksum.verifies draft.header := by
  have short : draft.fields.length ≤ 65535 := by
    rw [fields_length]
    decide
  exact Checksum.verifies_stamp draft.checksum_within (by decide) short

/-- The header of a built packet fits. -/
theorem toPacket_headerFits : draft.toPacket.HeaderFits := by
  -- A built packet has no options, so its header is the least one.
  refine ⟨Nat.le_refl _, ?_⟩
  simp only [toPacket, encode, List.length_append, header_length]
  exact Nat.le_add_right _ _

/-- The payload of a built packet reads back. -/
theorem toPacket_payload : draft.toPacket.payload = draft.payload :=
  List.drop_left' draft.header_length

/-- The checksum of a built packet holds. -/
theorem toPacket_headerVerifies : draft.toPacket.headerVerifies := by
  have header : draft.toPacket.header = draft.header := List.take_left' draft.header_length
  rw [Ipv4Packet.headerVerifies, header]
  exact draft.header_verifies

/-- The fields apart from the checksum stand in the packet as they are. -/
theorem slice_toPacket {start width : Nat} (within : start + width ≤ Ipv4Packet.leastHeader)
    (apart : start + width ≤ 10 ∨ 12 ≤ start) :
    Bytes.slice draft.toPacket.bytes start width = Bytes.slice draft.fields start width := by
  have front : Bytes.slice draft.toPacket.bytes start width =
      Bytes.slice draft.header start width :=
    Bytes.slice_append_left _ (by rw [header_length]; exact within)
  -- The checksum is the only word that is written afterwards.
  exact front.trans (Checksum.slice_stamp_of_apart draft.checksum_within apart)

/-- The source of a built packet reads back. -/
theorem toPacket_source : draft.toPacket.source = draft.source := by
  -- The source stands behind the fixed fields and in front of the destination.
  refine Address.readAt_of_slice ((draft.slice_toPacket (by decide) (Or.inr (by decide))).trans ?_)
  exact Bytes.slice_between _ (by simp) (by simp)

/-- The destination of a built packet reads back. -/
theorem toPacket_destination : draft.toPacket.destination = draft.destination := by
  -- The destination is the last field of the header.
  refine Address.readAt_of_slice ((draft.slice_toPacket (by decide) (Or.inr (by decide))).trans ?_)
  rw [fields, ← List.append_nil (_ ++ draft.destination.octets)]
  exact Bytes.slice_between _ (by simp [Family.bits]) (by simp)

/-- The protocol of a built packet reads back. -/
theorem toPacket_protocol : draft.toPacket.protocol = draft.protocol := by
  -- The protocol is one byte, which stands in front of the checksum.
  refine Bytes.byteAt_of_slice ((draft.slice_toPacket (by decide) (Or.inl (by decide))).trans ?_)
  rfl

/-- The time to live of a built packet reads back. -/
theorem toPacket_ttl : draft.toPacket.ttl = draft.ttl := by
  refine Bytes.byteAt_of_slice ((draft.slice_toPacket (by decide) (Or.inl (by decide))).trans ?_)
  rfl

/-- A built packet is the header and the payload. -/
theorem toPacket_length :
    draft.toPacket.bytes.length = Ipv4Packet.leastHeader + draft.payload.length := by
  simp only [toPacket, encode, List.length_append, header_length]

/-- A built packet is well formed unless it is too long for its length field. -/
theorem toPacket_wellFormed (short : Ipv4Packet.leastHeader + draft.payload.length < 65536) :
    draft.toPacket.WellFormed := by
  have first : Bytes.byteAt draft.toPacket.bytes 0 = 0x45 :=
    Bytes.byteAt_of_slice ((draft.slice_toPacket (by decide) (Or.inl (by decide))).trans rfl)
  refine ⟨toPacket_headerFits draft, ?_, ?_, ?_⟩
  · rw [first]
    rfl
  · rw [first]
    rfl
  · have written : Bytes.slice draft.toPacket.bytes 2 2 =
        Bytes.ofWord (UInt16.ofNat (Ipv4Packet.leastHeader + draft.payload.length)) :=
      (draft.slice_toPacket (by decide) (Or.inl (by decide))).trans rfl
    -- The length fits its field, so it reads back as it is.
    rw [Bytes.wordAt, written, Bytes.ofNat_value_ofWord, toPacket_length]
    exact UInt16.toNat_ofNat_of_lt' short

end NetworkLayer.Ipv4Draft
