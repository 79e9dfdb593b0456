import NetworkLayer.Proofs.Ipv4
import NetworkLayer.Proofs.Transport

/-!
Byte strings that differ in a few fields alone, and packets that were edited in such fields. Main statement about
checksums: a segment with a fresh checksum is intact, with or without all ones in place of zero.
-/

namespace NetworkLayer

namespace Bytes

/-- Whether a byte stands in one of some fields, each told by its offset and its width. -/
def Covered (fields : List (Nat × Nat)) (index : Nat) : Prop :=
  ∃ field ∈ fields, field.1 ≤ index ∧ index < field.1 + field.2

/-- Byte strings that are the same but for some fields. -/
structure SameBut (fields : List (Nat × Nat)) (left right : Bytes) : Prop where
  length : left.length = right.length
  outside : ∀ index, ¬ Covered fields index → left[index]? = right[index]?

/-- A byte that is not covered stands in front of every field or behind it. -/
theorem apart_of_uncovered {fields : List (Nat × Nat)} {index offset width : Nat}
    (uncovered : ¬ Covered fields index) (member : (offset, width) ∈ fields) :
    index < offset ∨ offset + width ≤ index := by
  rcases Nat.lt_or_ge index offset with front | reached
  · exact Or.inl front
  · exact Or.inr (Nat.not_lt.mp fun inside => uncovered ⟨_, member, reached, inside⟩)

namespace SameBut

variable {fields more : List (Nat × Nat)} {first second third : Bytes}

/-- A byte string is the same as itself. -/
theorem refl (fields : List (Nat × Nat)) (bytes : Bytes) : SameBut fields bytes bytes :=
  ⟨rfl, fun _ _ => rfl⟩

/-- Two changes cover the fields of both. -/
theorem trans (left : SameBut fields first second) (right : SameBut more second third) :
    SameBut (fields ++ more) first third where
  length := left.length.trans right.length
  outside index uncovered := by
    -- What no field covers stays in both steps.
    refine (left.outside index ?_).trans (right.outside index ?_)
    · rintro ⟨field, member, inside⟩
      exact uncovered ⟨field, List.mem_append_left _ member, inside⟩
    · rintro ⟨field, member, inside⟩
      exact uncovered ⟨field, List.mem_append_right _ member, inside⟩

/-- More fields may be named than differ. -/
theorem mono (same : SameBut fields first second) (subset : fields ⊆ more) :
    SameBut more first second where
  length := same.length
  outside index uncovered := same.outside index fun ⟨field, member, inside⟩ =>
    uncovered ⟨field, subset member, inside⟩

end SameBut

/-- Writing a field changes nothing else. -/
theorem patch_sameBut {bytes field : Bytes} {offset : Nat}
    (fits : offset + field.length ≤ bytes.length) :
    SameBut [(offset, field.length)] (patch bytes offset field) bytes where
  length := patch_length fits
  outside index uncovered := by
    have apart := apart_of_uncovered uncovered (List.mem_singleton.mpr rfl)
    rw [patch_getElem? field (by omega), if_neg (by omega)]

/-- Writing a word changes nothing else. -/
theorem patch_word_sameBut {bytes : Bytes} {offset : Nat} (fits : offset + 2 ≤ bytes.length)
    (word : UInt16) : SameBut [(offset, 2)] (patch bytes offset (ofWord word)) bytes := by
  have within : offset + (ofWord word).length ≤ bytes.length := by rwa [ofWord_length]
  have written := patch_sameBut within
  rwa [ofWord_length] at written

end Bytes

namespace Checksum

/-- A fresh checksum changes nothing but its own word. -/
theorem stamp_sameBut {bytes : Bytes} {offset : Nat} (fits : offset + 2 ≤ bytes.length) :
    Bytes.SameBut [(offset, 2)] (stamp bytes offset) bytes := by
  rw [stamp_eq fits]
  exact Bytes.patch_word_sameBut fits _

end Checksum

namespace Transport

variable {source destination : Address .v4} {protocol : UInt8} {offset : Nat} {segment : Bytes}
  {replacing : UInt16 → UInt16}

/-- A fresh checksum of a segment changes nothing but its own word. -/
theorem stamp_sameBut (fits : offset + 2 ≤ segment.length) :
    Bytes.SameBut [(offset, 2)] (stamp source destination protocol offset segment replacing)
      segment := by
  rw [stamp_eq fits]
  exact Bytes.patch_word_sameBut fits _

/-- The pseudo-header of a segment that is not too long adds little. -/
theorem pseudoSum_lt {length : Nat} (short : length ≤ 65535) :
    pseudoSum source destination protocol length < 0x80000000 := by
  -- Eight bytes of addresses make four words, and the two other terms are small.
  have addresses := Checksum.wordSum_le 0 (source.octets ++ destination.octets)
  have number : protocol.toNat < 256 := protocol.toNat_lt
  rw [List.length_append, Address.octets_length, Address.octets_length] at addresses
  have eight : Family.v4.bits / 8 + Family.v4.bits / 8 = 8 := rfl
  rw [pseudoSum]
  omega

/--
A segment with its own checksum in a word at an even offset is intact.

All ones may stand in place of zero, since both count the same.
-/
theorem checksum_stamp (fits : offset + 2 ≤ segment.length) (even : offset % 2 = 0)
    (short : segment.length ≤ 65535)
    (equal : ∀ word, (replacing word).toNat % 65535 = word.toNat % 65535) :
    checksum source destination protocol
      (stamp source destination protocol offset segment replacing) = 0 := by
  have few : pseudoSum source destination protocol segment.length < 0x80000000 := pseudoSum_lt short
  have blank : (Bytes.patch segment offset [0, 0]).length = segment.length :=
    Bytes.patch_length fits
  have value := Checksum.continued_toNat few (blank.symm ▸ short)
  rw [stamp_eq fits, checksum, checksum, blank, Bytes.patch_word_length fits, Checksum.continued,
    Checksum.onesSum_patch few short fits even, Checksum.fold_completed]
  · rfl
  · rw [equal, value]
  · -- The length alone makes the sum more than zero.
    rw [pseudoSum]
    omega

end Transport

namespace Ipv4Packet

variable {packet : Ipv4Packet}

/-- Another header field changes nothing but that field and the checksum. -/
theorem withField_sameBut (fits : packet.HeaderFits) {offset : Nat} {field : Bytes}
    (within : offset + field.length ≤ packet.headerLength) :
    Bytes.SameBut [(10, 2), (offset, field.length)] (packet.withField offset field).bytes
      packet.bytes where
  length := withField_length fits within
  outside index uncovered := by
    have clear := Bytes.apart_of_uncovered uncovered (List.mem_cons_self ..)
    have apart := Bytes.apart_of_uncovered uncovered
      (List.mem_cons_of_mem _ (List.mem_singleton.mpr rfl))
    exact withField_getElem? fits within clear apart

/-- A payload that is rewritten in place leaves the length field as it is. -/
theorem withPayload_totalLength (wellFormed : packet.WellFormed) {payload : Bytes}
    (same : payload.length = packet.payload.length) :
    Bytes.slice (packet.withPayload payload).bytes 2 2 = Bytes.slice packet.bytes 2 2 := by
  have carried := wellFormed.withPayload_of_length same
  have least : (20 : Nat) ≤ packet.headerLength := wellFormed.fits.1
  have room := wellFormed.fits.2
  have length : (packet.withPayload payload).bytes.length = packet.bytes.length := by
    rw [withPayload_length wellFormed.fits, same, Ipv4Packet.payload, List.length_drop]
    omega
  have word : Bytes.wordAt (packet.withPayload payload).bytes 2 = Bytes.wordAt packet.bytes 2 :=
    UInt16.toNat_inj.mp (by rw [carried.total, wellFormed.total, length])
  -- The same word is written as the same bytes.
  rw [← Bytes.ofWord_wordAt (by omega), ← Bytes.ofWord_wordAt (by omega), word]

/-- A payload that is rewritten in some fields changes nothing else but the checksum of the header. -/
theorem withPayload_sameBut (wellFormed : packet.WellFormed) {payload : Bytes}
    {fields : List (Nat × Nat)} (same : Bytes.SameBut fields payload packet.payload) :
    Bytes.SameBut
      ((10, 2) :: fields.map fun field => (packet.headerLength + field.1, field.2))
      (packet.withPayload payload).bytes packet.bytes where
  length := by
    have room := wellFormed.fits.2
    rw [withPayload_length wellFormed.fits, same.length, Ipv4Packet.payload, List.length_drop]
    omega
  outside index uncovered := by
    rcases Nat.lt_or_ge index packet.headerLength with inside | behind
    · -- In the header only the length is written, and it is the same again.
      have clear := Bytes.apart_of_uncovered uncovered (List.mem_cons_self ..)
      by_cases length : 2 ≤ index ∧ index < 4
      · have written := congrArg (·[index - 2]?) (withPayload_totalLength wellFormed same.length)
        simpa only [Bytes.slice_getElem?, if_pos (show index - 2 < 2 by omega),
          Nat.add_sub_cancel' length.1] using written
      · exact withPayload_getElem? wellFormed.fits payload inside (by omega) clear
    · have clear : ¬ Bytes.Covered fields (index - packet.headerLength) := by
        rintro ⟨field, member, covered⟩
        exact uncovered ⟨_, List.mem_cons_of_mem _ (List.mem_map_of_mem member), by omega⟩
      have read := same.outside (index - packet.headerLength) clear
      have carried := withPayload_payload wellFormed.fits payload
      have header : (packet.withPayload payload).headerLength = packet.headerLength := rfl
      rw [← carried] at read
      simpa only [Ipv4Packet.payload, header, List.getElem?_drop, Nat.add_sub_cancel' behind]
        using read

end Ipv4Packet

end NetworkLayer
