import NetworkLayer.Proofs.Address
import NetworkLayer.Proofs.ExtensionChain

/-!
Edits of IPv6 packets: what reading makes of a byte string is well formed, every edit keeps it so, and
the upper layer is never touched.
-/

namespace NetworkLayer.Ipv6Packet

/-- A packet that reads back: its length is the declared one, and its chain stands in its bytes. -/
structure WellFormed (packet : Ipv6Packet) : Prop where
  version : (Bytes.byteAt packet.bytes 0).toNat / 16 = 6
  total : headerSize + (Bytes.wordAt packet.bytes 4).toNat = packet.bytes.length
  stands : ExtensionChain.Stands packet.bytes 6 headerSize packet.chain

/-- What the extension headers of a packet say, in order. -/
def contents (packet : Ipv6Packet) : List (UInt8 × Bytes) :=
  packet.chain.headers.map (·.content packet.bytes)

/-- What is read is well formed, and it is the part of the data that its length field declares. -/
theorem parse_cases {data : Bytes} {packet : Ipv6Packet} (read : parse data = .ok packet) :
    packet.WellFormed ∧ packet.bytes = data.take (headerSize + (Bytes.wordAt data 4).toNat) ∧
      headerSize + (Bytes.wordAt data 4).toNat ≤ data.length := by
  -- Each test that is made has passed, or nothing would have been read.
  simp only [parse, bind, Except.bind, pure, Except.pure, throw, throwThe,
    MonadExceptOf.throw] at read
  split at read
  · cases read
  split at read
  · cases read
  split at read
  · cases read
  rename_i versioned enough
  have enough := Nat.le_of_not_lt enough
  split at read
  · cases read
  rename_i chain found
  cases read
  have room : headerSize ≤ headerSize + (Bytes.wordAt data 4).toNat := Nat.le_add_right ..
  refine ⟨⟨?_, ?_, ExtensionChain.stands_of_walk found⟩, rfl, enough⟩
  · -- The first byte and the length lie in front of the cut, so the packet shows them like the data.
    rw [Bytes.byteAt_take data (Nat.lt_of_lt_of_le (by decide) room)]
    exact Decidable.not_not.mp versioned
  · rw [Bytes.wordAt_take data (Nat.le_trans (by decide) room), List.length_take_of_le enough]

namespace WellFormed

variable {packet : Ipv6Packet} (wellFormed : packet.WellFormed)
include wellFormed

/-- The fixed header lies within the packet. -/
theorem room : headerSize ≤ packet.bytes.length := by
  rw [← wellFormed.total]
  exact Nat.le_add_right ..

/-- The chain starts behind its first announcement, and every header of it lies in the packet. -/
theorem within :
    packet.chain.upperOffset ≤ packet.bytes.length ∧ headerSize ≤ packet.chain.upperOffset ∧
      ∀ header ∈ packet.chain.headers, headerSize ≤ header.offset ∧ 8 ≤ header.length ∧
        header.offset + header.length ≤ packet.chain.upperOffset ∧
        header.kindOffset < header.offset ∧
        (header.kindOffset = 6 ∨ headerSize ≤ header.kindOffset) :=
  wellFormed.stands.within wellFormed.room (by decide)

/-- An extension header lies behind its announcement and in front of the upper layer. -/
theorem header_within {header : ExtensionHeader} (member : header ∈ packet.chain.headers) :
    40 ≤ header.offset ∧ 8 ≤ header.length ∧
      header.offset + header.length ≤ packet.chain.upperOffset ∧
      packet.chain.upperOffset ≤ packet.bytes.length ∧ header.kindOffset < header.offset := by
  obtain ⟨upper, -, headers⟩ := wellFormed.within
  obtain ⟨above, long, ended, ordered, -⟩ := headers header member
  exact ⟨above, long, ended, upper, ordered⟩

/-- An extension header lies in the packet as a whole. -/
theorem header_length {header : ExtensionHeader} (member : header ∈ packet.chain.headers) :
    (Bytes.slice packet.bytes header.offset header.length).length = header.length := by
  obtain ⟨-, -, ended, upper, -⟩ := wellFormed.header_within member
  exact Bytes.slice_length (Nat.le_trans ended upper)

/-- A well-formed packet reads back from its bytes, whatever padding stands behind them. -/
theorem parse_append (padding : Bytes) : Ipv6Packet.parse (packet.bytes ++ padding) = .ok packet := by
  have room := wellFormed.room
  have wide : headerSize = 40 := rfl
  have chain : chainOf packet.bytes = .ok packet.chain := wellFormed.stands.walk
  -- Version and length stand in the fixed header, in front of the padding.
  have length : headerSize + (Bytes.wordAt (packet.bytes ++ padding) 4).toNat =
      packet.bytes.length := by
    rw [Bytes.wordAt, Bytes.slice_append_left padding (by omega)]
    exact wellFormed.total
  have version : (Bytes.byteAt (packet.bytes ++ padding) 0).toNat / 16 = 6 := by
    rw [Bytes.byteAt_append_left padding (by omega)]
    exact wellFormed.version
  have long : packet.bytes.length ≤ (packet.bytes ++ padding).length := by
    rw [List.length_append]
    omega
  simp only [Ipv6Packet.parse, bind, Except.bind, pure, Except.pure, throw, throwThe,
    MonadExceptOf.throw, if_neg (Nat.not_lt.mpr (Nat.le_trans room long)), version, ne_eq,
    not_true_eq_false, if_false, length, if_neg (Nat.not_lt.mpr long), List.take_left, chain]

/-- A well-formed packet reads back from its bytes. -/
theorem parse : Ipv6Packet.parse packet.bytes = .ok packet := by
  have read := wellFormed.parse_append []
  rwa [List.append_nil] at read

/-- A field of the fixed header behind the announcement of the chain may change. -/
theorem withField {offset : Nat} {field : Bytes} (behind : 7 ≤ offset)
    (fits : offset + field.length ≤ headerSize) : (packet.withField offset field).WellFormed := by
  have room := wellFormed.room
  have inside : offset ≤ packet.bytes.length := by omega
  -- Version, length and announcement stand in front of the field, and the chain behind it.
  refine ⟨?_, ?_, wellFormed.stands.congr ?_ ?_⟩
  · rw [Ipv6Packet.withField, Bytes.byteAt_patch_of_apart field inside (Or.inl (by omega))]
    exact wellFormed.version
  · rw [Ipv6Packet.withField, Bytes.wordAt_patch_of_apart field inside (Or.inl (by omega)),
      Bytes.patch_length (by omega)]
    exact wellFormed.total
  · exact Bytes.byteAt_patch_of_apart field inside (Or.inl (by omega))
  · exact Bytes.drop_patch field inside fits

/-- What a packet carries for the upper layer has a length that its field could tell. -/
theorem upperPayload_short : packet.upperPayload.length ≤ 65535 := by
  have least : (40 : Nat) ≤ packet.chain.upperOffset := wellFormed.within.2.1
  have word := (Bytes.wordAt packet.bytes 4).toNat_lt
  have total : (40 : Nat) + _ = _ := wellFormed.total
  rw [Ipv6Packet.upperPayload, List.length_drop]
  omega

end WellFormed

section Front

variable {packet : Ipv6Packet} (wellFormed : packet.WellFormed)
include wellFormed

/-- A field of the fixed header is no part of the upper layer. -/
theorem withField_upperPayload {offset : Nat} {field : Bytes}
    (fits : offset + field.length ≤ headerSize) :
    (packet.withField offset field).upperPayload = packet.upperPayload := by
  have room := wellFormed.room
  obtain ⟨-, reached, -⟩ := wellFormed.within
  exact Bytes.drop_patch field (by omega) (by simp only [withField]; omega)

/-- Another hop limit keeps a packet well formed. -/
theorem WellFormed.withHopLimit (hopLimit : UInt8) : (packet.withHopLimit hopLimit).WellFormed :=
  wellFormed.withField (by decide) (by simp [headerSize])

/-- The new hop limit reads back. -/
theorem withHopLimit_hopLimit (hopLimit : UInt8) :
    (packet.withHopLimit hopLimit).hopLimit = hopLimit :=
  Bytes.byteAt_patch hopLimit (Nat.le_trans (by decide) wellFormed.room)

/-- Another destination keeps a packet well formed. -/
theorem WellFormed.withDestination (destination : Address .v6) :
    (packet.withDestination destination).WellFormed :=
  wellFormed.withField (by decide) (by simp [Family.bits, headerSize])

/-- The new destination reads back. -/
theorem withDestination_destination (destination : Address .v6) :
    (packet.withDestination destination).destination = destination := by
  have room := wellFormed.room
  have wide : headerSize = 40 := rfl
  have written : Bytes.slice (packet.withDestination destination).bytes 24
      destination.octets.length = destination.octets := Bytes.slice_patch _ (by omega)
  exact Address.readAt_of_slice (by rwa [Address.octets_length] at written)

/-- A new hop limit leaves the destination alone. -/
theorem withHopLimit_destination (hopLimit : UInt8) :
    (packet.withHopLimit hopLimit).destination = packet.destination :=
  Address.readAt_congr (Bytes.slice_patch_of_apart _ (Nat.le_trans (by decide) wellFormed.room)
    (Or.inr (by simp)))

/-- A new destination leaves the hop limit alone. -/
theorem withDestination_hopLimit (destination : Address .v6) :
    (packet.withDestination destination).hopLimit = packet.hopLimit :=
  Bytes.byteAt_patch_of_apart _ (Nat.le_trans (by decide) wellFormed.room) (Or.inl (by decide))

end Front

section Segments

variable {packet : Ipv6Packet} (wellFormed : packet.WellFormed) {header : ExtensionHeader}
  (member : header ∈ packet.chain.headers)
include wellFormed member

/-- A byte within an extension header, behind its kind and size, may change. -/
theorem WellFormed.withByte {place : Nat} (behind : 2 ≤ place) (short : place < 8) (byte : UInt8) :
    (packet.withField (header.offset + place) [byte]).WellFormed := by
  obtain ⟨above, long, ended, upper, -⟩ := wellFormed.header_within member
  -- The byte is within the header, and so behind the fixed one.
  have inside : header.offset + place < packet.bytes.length := by omega
  refine ⟨?_, ?_, wellFormed.stands.patched (by decide) wellFormed.room member behind short byte⟩
  · rw [Ipv6Packet.withField, Bytes.byteAt_patch_of_apart [byte] (Nat.le_of_lt inside)
      (Or.inl (by omega))]
    exact wellFormed.version
  · rw [Ipv6Packet.withField, Bytes.wordAt_patch_of_apart [byte] (Nat.le_of_lt inside)
      (Or.inl (by omega)), Bytes.patch_byte_length inside]
    exact wellFormed.total

/-- A byte within an extension header is no part of the upper layer. -/
theorem withByte_upperPayload {place : Nat} (short : place < 8) (byte : UInt8) :
    (packet.withField (header.offset + place) [byte]).upperPayload = packet.upperPayload := by
  obtain ⟨-, long, ended, upper, -⟩ := wellFormed.header_within member
  refine Bytes.drop_patch [byte] (by omega) ?_
  simp only [withField, List.length_singleton]
  omega

/-- A byte within an extension header is no part of the fixed one. -/
theorem withByte_hopLimit {place : Nat} (short : place < 8) (byte : UInt8) :
    (packet.withField (header.offset + place) [byte]).hopLimit = packet.hopLimit := by
  obtain ⟨above, long, ended, upper, -⟩ := wellFormed.header_within member
  exact Bytes.byteAt_patch_of_apart [byte] (by omega) (Or.inl (by omega))

end Segments

section Dropping

/-- The bytes of a packet without an extension header, before the length field is corrected. -/
def spliced (packet : Ipv6Packet) (header : ExtensionHeader) : Bytes :=
  Bytes.excise (Bytes.patch packet.bytes header.kindOffset [Bytes.byteAt packet.bytes header.offset])
    header.offset header.length

/-- The bytes of a packet without an extension header. -/
def shortened (packet : Ipv6Packet) (header : ExtensionHeader) : Bytes :=
  Bytes.patch (packet.spliced header) 4
    (Bytes.ofWord (UInt16.ofNat ((packet.spliced header).length - headerSize)))

/-- Without an extension header, a packet has the chain that is then found in its bytes. -/
theorem dropping_eq (packet : Ipv6Packet) (header : ExtensionHeader) :
    packet.dropping header = match chainOf (packet.shortened header) with
      | .ok chain => ⟨packet.shortened header, chain⟩
      | .error _ => { packet with bytes := packet.shortened header } := rfl

/-- Whether or not a chain is found in them, the bytes are the shortened ones. -/
theorem dropping_bytes (packet : Ipv6Packet) (header : ExtensionHeader) :
    (packet.dropping header).bytes = packet.shortened header := by
  rw [dropping_eq]
  split
  · rfl
  · rfl

/-- A chain that stands in the shortened bytes is the one found there. -/
theorem dropping_eq_of_stands {packet : Ipv6Packet} {header : ExtensionHeader}
    {shorter : ExtensionChain}
    (stands : ExtensionChain.Stands (packet.shortened header) 6 headerSize shorter) :
    packet.dropping header = ⟨packet.shortened header, shorter⟩ := by
  have found : chainOf (packet.shortened header) = .ok shorter := stands.walk
  rw [dropping_eq, found]

variable {packet : Ipv6Packet} (wellFormed : packet.WellFormed) {header : ExtensionHeader}
  (member : header ∈ packet.chain.headers)
include wellFormed member

/-- The announcement of an extension header can be overwritten without a change of length. -/
theorem relinked_length : (Bytes.patch packet.bytes header.kindOffset
    [Bytes.byteAt packet.bytes header.offset]).length = packet.bytes.length := by
  obtain ⟨-, long, ended, upper, ordered⟩ := wellFormed.header_within member
  exact Bytes.patch_byte_length (by omega) _

/-- Without an extension header a packet is so much shorter, and its fixed header is still there. -/
theorem spliced_length : (packet.spliced header).length + header.length = packet.bytes.length ∧
    headerSize ≤ (packet.spliced header).length := by
  obtain ⟨above, long, ended, upper, ordered⟩ := wellFormed.header_within member
  -- Relinking keeps the length, and the cut takes out just the header.
  have relinked := relinked_length wellFormed member
  have cut := Bytes.excise_length (Bytes.patch packet.bytes header.kindOffset
    [Bytes.byteAt packet.bytes header.offset]) header.offset header.length (by omega)
  have wide : headerSize = 40 := rfl
  rw [relinked] at cut
  exact ⟨cut, by rw [spliced]; omega⟩

/-- A byte of the fixed header outside its length and its announcement stays. -/
theorem byteAt_shortened {index : Nat} (fixed : index < headerSize) (other : index ≠ 6)
    (apart : index < 4 ∨ 6 ≤ index) :
    Bytes.byteAt (packet.shortened header) index = Bytes.byteAt packet.bytes index := by
  obtain ⟨upper, -, headers⟩ := wellFormed.within
  obtain ⟨above, long, ended, ordered, link⟩ := headers header member
  obtain ⟨-, room⟩ := spliced_length wellFormed member
  have size := relinked_length wellFormed member
  -- The splice takes bytes behind the fixed header, and the patches write its sixth byte and its length.
  have wide : headerSize = 40 := rfl
  rw [shortened, Bytes.byteAt_patch_of_apart _ (by omega)
    (by rw [Bytes.ofWord_length]; omega), spliced, Bytes.byteAt_excise _ (by omega) (by omega),
    Bytes.byteAt_patch_of_apart _ (by omega) (by simp only [List.length_singleton]; omega)]

/-- The corrected length field tells the length. -/
theorem shortened_total : headerSize + (Bytes.wordAt (packet.shortened header) 4).toNat =
    (packet.shortened header).length := by
  -- The length that is declared is that of the shorter packet, which still fits the field.
  obtain ⟨cut, room⟩ := spliced_length wellFormed member
  have declared := wellFormed.total
  have small : (Bytes.wordAt packet.bytes 4).toNat < 65536 := UInt16.toNat_lt _
  have wide : headerSize = 40 := rfl
  rw [shortened, Bytes.wordAt_patch _ (by omega),
    Bytes.patch_word_length (by omega), UInt16.toNat_ofNat_of_lt' (show _ < 65536 by omega)]
  omega

/-- Without the header, a chain stands that has the content of all others and the same upper layer. -/
theorem shortened_stands : ∃ shorter,
    ExtensionChain.Stands (packet.shortened header) 6 headerSize shorter ∧
      shorter.upperProtocol = packet.chain.upperProtocol ∧
      shorter.upperOffset + header.length = packet.chain.upperOffset ∧
      shorter.headers.map (·.content (packet.shortened header)) =
        (packet.chain.headers.erase header).map (·.content packet.bytes) := by
  obtain ⟨-, room⟩ := spliced_length wellFormed member
  obtain ⟨shorter, stands, protocol, place, contents⟩ :=
    wellFormed.stands.excised (by decide) wellFormed.room member
  have wide : headerSize = 40 := rfl
  -- The length field is no part of the chain.
  have behind : (packet.shortened header).drop headerSize =
      (packet.spliced header).drop headerSize :=
    Bytes.drop_patch _ (by omega) (by rw [Bytes.ofWord_length]; omega)
  refine ⟨shorter, stands.congr ?_ behind, protocol, place, ?_⟩
  · exact Bytes.byteAt_patch_of_apart _ (by omega) (Or.inr (by simp))
  · rw [← contents]
    refine List.map_congr_left fun other among => ?_
    obtain ⟨above, -⟩ := (stands.within room (by decide)).2.2 other among
    rw [ExtensionHeader.content, ExtensionHeader.content, shortened, Bytes.slice_patch_of_apart _
      (by omega) (by rw [Bytes.ofWord_length]; omega)]
    rfl

/-- What stands behind the header moves up. -/
theorem drop_shortened {start : Nat} (behind : header.offset ≤ start) :
    (packet.shortened header).drop start = packet.bytes.drop (start + header.length) := by
  -- Neither patch reaches behind the start, so only the cut moves the bytes.
  obtain ⟨above, long, ended, upper, ordered⟩ := wellFormed.header_within member
  obtain ⟨cut, room⟩ := spliced_length wellFormed member
  have size := relinked_length wellFormed member
  have wide : headerSize = 40 := rfl
  rw [shortened, Bytes.drop_patch _ (by omega) (by rw [Bytes.ofWord_length]; omega), spliced,
    Bytes.drop_excise (by omega) behind,
    Bytes.drop_patch _ (by omega) (by simp only [List.length_singleton]; omega)]

/-- Without one of its extension headers, a packet has the content of all others. -/
theorem dropping_contents : (packet.dropping header).contents =
    (packet.chain.headers.erase header).map (·.content packet.bytes) := by
  obtain ⟨shorter, stands, -, -, contents⟩ := shortened_stands wellFormed member
  rw [dropping_eq_of_stands stands]
  exact contents

/-- A packet without one of its extension headers has one header less. -/
theorem dropping_count :
    (packet.dropping header).chain.headers.length + 1 = packet.chain.headers.length := by
  have count := congrArg List.length (dropping_contents wellFormed member)
  rw [contents, List.length_map, List.length_map, List.length_erase_of_mem member] at count
  have some := List.length_pos_of_mem member
  omega

/-- A packet without one of its extension headers is well formed and carries the same upper layer. -/
theorem dropping_wellFormed : (packet.dropping header).WellFormed ∧
    (packet.dropping header).chain.upperProtocol = packet.chain.upperProtocol ∧
    (packet.dropping header).upperPayload = packet.upperPayload ∧
    (packet.dropping header).hopLimit = packet.hopLimit := by
  obtain ⟨shorter, stands, protocol, place, -⟩ := shortened_stands wellFormed member
  rw [dropping_eq_of_stands stands]
  refine ⟨⟨?_, shortened_total wellFormed member, stands⟩, protocol, ?_, ?_⟩
  · -- The first byte stays, so the version does.
    simp only
    rw [byteAt_shortened wellFormed member (by decide) (by decide) (Or.inl (by decide))]
    exact wellFormed.version
  · -- The upper layer comes behind the header that goes, wherever that stood.
    obtain ⟨-, -, ended, -, -⟩ := wellFormed.header_within member
    have behind : header.offset ≤ shorter.upperOffset := by omega
    rw [upperPayload, upperPayload, drop_shortened wellFormed member behind, place]
  · exact byteAt_shortened wellFormed member (by decide) (by decide) (Or.inr (by decide))

end Dropping

end NetworkLayer.Ipv6Packet
