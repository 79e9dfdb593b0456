import NetworkLayer.Neighbor
import NetworkLayer.Proofs.Address
import NetworkLayer.Proofs.Frame

/-! The messages of Neighbor Discovery read back as they were written. -/

namespace NetworkLayer

/-- The only option of a message is found by its type. -/
theorem Neighbor.linkOption?_encodeLink (kind : UInt8) (link : Option Mac) :
    linkOption? kind (encodeLink kind link) = link := by
  cases link with
  | none =>
    unfold linkOption?
    rfl
  | some mac =>
    have station := mac.octets_length
    -- The option fills the one unit of eight bytes that it announces.
    have whole : ¬ (UInt8.toNat 1 * 8 = 0 ∨ (kind :: 1 :: mac.octets).length < UInt8.toNat 1 * 8) := by
      simp only [List.length_cons, station]
      decide
    have read := @Mac.readAt_between [kind, 1] mac [] 2 rfl
    rw [List.append_nil] at read
    unfold linkOption?
    simp only [encodeLink, List.cons_append, List.nil_append, if_neg whole, if_true]
    exact congrArg some read

/-- An option takes eight bytes at most. -/
theorem Neighbor.encodeLink_length (kind : UInt8) (link : Option Mac) :
    (encodeLink kind link).length ≤ 8 := by
  cases link with
  | none => exact Nat.zero_le 8
  | some mac =>
    have station := mac.octets_length
    simp only [encodeLink, List.length_append, List.length_cons, List.length_nil, station]
    omega

/-- Behind its flags every message body has the target, which fills its fixed part. -/
theorem Neighbor.fixed_part {flags : Bytes} (four : flags.length = 4) (target : Address .v6) :
    (flags ++ target.octets).length = leastBody ∧
      Address.readAt (flags ++ target.octets) 4 = target := by
  have wide : target.octets.length = 16 := Address.octets_length target
  -- The target fills the rest behind the four bytes of flags.
  constructor
  · rw [List.length_append, four, wide, leastBody]
  · apply Address.readAt_of_slice
    have read := Bytes.slice_between [] four wide
    rwa [List.append_nil] at read

/-- The target stands in the fixed part of a body, and the options are what follows it. -/
theorem Neighbor.fixed_append {fixed : Bytes} (twenty : fixed.length = leastBody)
    (options : Bytes) : ¬ (fixed ++ options).length < leastBody ∧
      (Address.readAt (fixed ++ options) 4 : Address .v6) = Address.readAt fixed 4 ∧
      (fixed ++ options).drop 20 = options := by
  refine ⟨?_, ?_, List.drop_left' twenty⟩
  · rw [List.length_append]
    omega
  · exact Address.readAt_congr (Bytes.slice_append_left options (Nat.le_of_eq twenty.symm))

/-- A solicitation has room for its checksum, and it is short. -/
theorem NeighborSolicitation.encode_fits (message : NeighborSolicitation) :
    4 ≤ message.encode.length ∧ message.encode.length ≤ 32 := by
  have wide : message.target.octets.length = 16 := Address.octets_length message.target
  have option := Neighbor.encodeLink_length Neighbor.sourceLink message.link
  simp only [encode, List.length_append, List.length_cons, List.length_nil, wide]
  omega

/-- A solicitation is read from its fixed part and from the options behind it. -/
theorem NeighborSolicitation.parse_append {fixed : Bytes} (twenty : fixed.length = Neighbor.leastBody)
    (options : Bytes) : parse (fixed ++ options) =
      .ok ⟨Address.readAt fixed 4, Neighbor.linkOption? Neighbor.sourceLink options⟩ := by
  obtain ⟨long, target, behind⟩ := Neighbor.fixed_append twenty options
  rw [parse, if_neg long, target, behind]

/-- With anything behind it, a solicitation reads back but for its link-layer address. -/
theorem NeighborSolicitation.parse_encode_append (message : NeighborSolicitation) (more : Bytes) :
    parse (message.encode.drop Icmpv6Message.headerSize ++ more) = .ok { message with
      link := Neighbor.linkOption? Neighbor.sourceLink
        (Neighbor.encodeLink Neighbor.sourceLink message.link ++ more) } := by
  have body : message.encode.drop Icmpv6Message.headerSize = [0, 0, 0, 0] ++
      message.target.octets ++ Neighbor.encodeLink Neighbor.sourceLink message.link := rfl
  obtain ⟨twenty, target⟩ :=
    Neighbor.fixed_part (show [0, 0, 0, 0].length = 4 from rfl) message.target
  rw [body, List.append_assoc, parse_append twenty, target]

/-- A solicitation reads back from what follows its checksum. -/
theorem NeighborSolicitation.parse_encode (message : NeighborSolicitation) :
    parse (message.encode.drop Icmpv6Message.headerSize) = .ok message := by
  have read := message.parse_encode_append []
  rwa [List.append_nil, List.append_nil, Neighbor.linkOption?_encodeLink] at read

namespace NeighborAdvertisement

variable (message : NeighborAdvertisement)

/-- An advertisement has room for its checksum, and it is short. -/
theorem encode_fits : 4 ≤ message.encode.length ∧ message.encode.length ≤ 32 := by
  have wide : message.target.octets.length = 16 := Address.octets_length message.target
  have option := Neighbor.encodeLink_length Neighbor.targetLink message.link
  simp only [encode, List.length_append, List.length_cons, List.length_nil, wide]
  omega

/-- Each flag has a bit of its own. -/
theorem flags_bits : (message.flags &&& 0x80 != 0) = message.router ∧
    (message.flags &&& 0x40 != 0) = message.solicited ∧
    (message.flags &&& 0x20 != 0) = message.override := by
  -- Three bits have eight values, which are looked through.
  have bits : ∀ router solicited override : Bool,
      let flags : UInt8 := (if router then 0x80 else 0) ||| (if solicited then 0x40 else 0) |||
        (if override then 0x20 else 0)
      (flags &&& 0x80 != 0) = router ∧ (flags &&& 0x40 != 0) = solicited ∧
        (flags &&& 0x20 != 0) = override := by decide
  exact bits message.router message.solicited message.override

/-- An advertisement is read from its fixed part, flags first, and from the options behind it. -/
theorem parse_append {fixed : Bytes} (twenty : fixed.length = Neighbor.leastBody) (options : Bytes) :
    parse (fixed ++ options) = .ok {
      router := Bytes.byteAt fixed 0 &&& 0x80 != 0
      solicited := Bytes.byteAt fixed 0 &&& 0x40 != 0
      override := Bytes.byteAt fixed 0 &&& 0x20 != 0
      target := Address.readAt fixed 4
      link := Neighbor.linkOption? Neighbor.targetLink options } := by
  obtain ⟨long, target, behind⟩ := Neighbor.fixed_append twenty options
  have flags : Bytes.byteAt (fixed ++ options) 0 = Bytes.byteAt fixed 0 :=
    Bytes.byteAt_append_left options (by rw [twenty]; decide)
  rw [parse, if_neg long, target, behind, flags]

/-- With anything behind it, an advertisement reads back but for its link-layer address. -/
theorem parse_encode_append (more : Bytes) :
    parse (message.encode.drop Icmpv6Message.headerSize ++ more) = .ok { message with
      link := Neighbor.linkOption? Neighbor.targetLink
        (Neighbor.encodeLink Neighbor.targetLink message.link ++ more) } := by
  have body : message.encode.drop Icmpv6Message.headerSize = [message.flags, 0, 0, 0] ++
      message.target.octets ++ Neighbor.encodeLink Neighbor.targetLink message.link := rfl
  have first : Bytes.byteAt ([message.flags, 0, 0, 0] ++ message.target.octets) 0 =
      message.flags := rfl
  -- The flags and the target lie in front of what the message is followed by, so they read the same as alone.
  obtain ⟨twenty, target⟩ := Neighbor.fixed_part
    (show [message.flags, 0, 0, 0].length = 4 from rfl) message.target
  obtain ⟨router, solicited, override⟩ := message.flags_bits
  rw [body, List.append_assoc, parse_append twenty, target, first, router, solicited, override]

/-- An advertisement reads back from what follows its checksum. -/
theorem parse_encode :
    parse (message.encode.drop Icmpv6Message.headerSize) = .ok message := by
  have read := message.parse_encode_append []
  rwa [List.append_nil, List.append_nil, Neighbor.linkOption?_encodeLink] at read

end NeighborAdvertisement

end NetworkLayer
