import NetworkLayer.Proofs.Ipv6.Edits

/-!
What edits make of the contents of the extension headers. Main statement: a new count of segments changes
the fourth byte of the routing header and no other content.
-/

namespace NetworkLayer.Ipv6Packet

variable {packet : Ipv6Packet}

/-- The contents with another count of segments in each routing header. -/
def recounted (left : UInt8) (contents : List (UInt8 × Bytes)) : List (UInt8 × Bytes) :=
  contents.map fun (kind, content) =>
    -- The content starts behind the announcement, so the fourth byte is the third one of it.
    (kind, if kind = ExtensionHeader.routing then Bytes.patch content 2 [left] else content)

/-- Parts of the contents are recounted one by one. -/
theorem recounted_append (left : UInt8) (front back : List (UInt8 × Bytes)) :
    recounted left (front ++ back) = recounted left front ++ recounted left back :=
  List.map_append

/-- Without a routing header there is no count. -/
theorem recounted_of_missing (left : UInt8) {contents : List (UInt8 × Bytes)}
    (missing : ∀ content ∈ contents, content.1 ≠ ExtensionHeader.routing) :
    recounted left contents = contents := by
  rw [recounted]
  refine (List.map_congr_left fun ⟨kind, content⟩ member => ?_).trans (List.map_id contents)
  have other : kind ≠ ExtensionHeader.routing := missing (kind, content) member
  simp only [if_neg other, id_eq]

/-- A header is found by what it says. -/
theorem extension?_of_contents {kind : UInt8} {content : Bytes}
    (found : packet.contents.find? (·.1 == kind) = some (kind, content)) :
    ∃ header, packet.extension? kind = some header ∧
      (Bytes.slice packet.bytes header.offset header.length).drop 1 = content := by
  rw [contents, List.find?_map] at found
  obtain ⟨header, there, written⟩ := Option.map_eq_some_iff.mp found
  exact ⟨header, there, congrArg Prod.snd written⟩

section Edits

variable (wellFormed : packet.WellFormed)
include wellFormed

/-- A field of the fixed header is no content. -/
theorem withField_contents {offset : Nat} {field : Bytes}
    (fits : offset + field.length ≤ headerSize) :
    (packet.withField offset field).contents = packet.contents := by
  have room := wellFormed.room
  -- Every header lies behind the fixed one.
  refine List.map_congr_left fun header member => ?_
  obtain ⟨above, -⟩ := wellFormed.header_within member
  have wide : headerSize = 40 := rfl
  rw [ExtensionHeader.content, withField, Bytes.slice_patch_of_apart field (by omega) (by omega)]
  rfl

/-- A new count of segments in a header changes what this one says, and no other one. -/
theorem recount_content {header other : ExtensionHeader} (member : header ∈ packet.chain.headers)
    (among : other ∈ packet.chain.headers) (left : UInt8) :
    other.content (packet.withField (header.offset + 3) [left]).bytes =
      if other = header then (header.kind, Bytes.patch (header.content packet.bytes).2 2 [left])
      else other.content packet.bytes := by
  obtain ⟨-, long, ended, upper, -⟩ := wellFormed.header_within member
  obtain ⟨-, otherLong, otherEnded, -, -⟩ := wellFormed.header_within among
  simp only [ExtensionHeader.content, withField]
  split
  · rename_i same
    subst same
    have counted := Bytes.slice_patch_of_within packet.bytes [left] (Nat.le_add_right other.offset 3)
      (show other.offset + 3 + [left].length ≤ other.offset + other.length by
        simp only [List.length_singleton]
        omega) (by omega)
    have room : 3 ≤ (Bytes.slice packet.bytes other.offset other.length).length := by
      rw [wellFormed.header_length among]
      omega
    rw [counted, Nat.add_sub_cancel_left, Bytes.drop_patch_of_le _ _ (by decide) room]
  · -- Another header shares no byte with this one.
    have apart := (wellFormed.stands.tiles.apart among member).resolve_left ‹_›
    rw [Bytes.slice_patch_of_apart _ (by omega) (by simp only [List.length_singleton]; omega)]

/-- A new count of segments stands in the only routing header and nowhere else. -/
theorem recount_contents {header : ExtensionHeader} (member : header ∈ packet.chain.headers)
    (routing : header.kind = ExtensionHeader.routing)
    (only : ∀ other ∈ packet.chain.headers, other.kind = ExtensionHeader.routing → other = header)
    (left : UInt8) : (packet.withField (header.offset + 3) [left]).contents =
      recounted left packet.contents := by
  rw [contents, contents, recounted, List.map_map]
  -- Every header is looked at on its own, and only the routing header shows the count.
  refine List.map_congr_left fun other among => ?_
  rw [recount_content wellFormed member among]
  simp only [Function.comp_apply]
  by_cases same : (other.content packet.bytes).1 = ExtensionHeader.routing
  · obtain rfl := only other among same
    rw [if_pos rfl, if_pos same]
    rfl
  · have foreign : other ≠ header := fun equal => same (equal ▸ routing)
    rw [if_neg foreign, if_neg same]

/-- A packet without one of its extension headers is for the same destination. -/
theorem dropping_destination {header : ExtensionHeader} (member : header ∈ packet.chain.headers) :
    (packet.dropping header).destination = packet.destination := by
  obtain ⟨upper, -, headers⟩ := wellFormed.within
  obtain ⟨above, long, ended, ordered, link⟩ := headers header member
  obtain ⟨-, room⟩ := spliced_length wellFormed member
  have whole := wellFormed.room
  have wide : headerSize = 40 := rfl
  have octets : Family.bits .v6 / 8 = 16 := rfl
  -- The destination stands behind the length field and in front of the chain.
  refine Address.readAt_congr ?_
  rw [dropping_bytes, octets, shortened, Bytes.slice_patch_of_apart _ (by omega)
    (by rw [Bytes.ofWord_length]; omega), spliced, Bytes.slice_excise_of_before (by omega),
    Bytes.slice_patch_of_apart _ (by omega) (by simp only [List.length_singleton]; omega)]

end Edits

end NetworkLayer.Ipv6Packet
