import NetworkLayer.Proofs.Address
import NetworkLayer.SegmentRouting

/-!
Segment lists on the wire. Main statement: what is read of a header that was written is what it was
written for, and the announcement in its first byte does not count.
-/

namespace NetworkLayer

/-- Addresses take sixteen bytes each. -/
theorem Address.flatMap_octets_length (addresses : List (Address .v6)) :
    (addresses.flatMap Address.octets).length = 16 * addresses.length := by
  induction addresses with
  | nil => rfl
  | cons address rest ih =>
    rw [List.flatMap_cons, List.length_append, ih, octets_length, List.length_cons]
    simp only [Family.bits]
    omega

/-- An address of a list reads back behind a front and so many addresses. -/
theorem Address.readAt_flatMap (front : Bytes) (addresses : List (Address .v6)) {index : Nat}
    (inside : index < addresses.length) :
    readAt (front ++ addresses.flatMap Address.octets) (front.length + index * 16) =
      addresses[index] := by
  -- The list falls into what stands before the address, the address and the rest.
  have split : addresses.flatMap Address.octets = (addresses.take index).flatMap Address.octets ++
      (addresses[index].octets ++ (addresses.drop (index + 1)).flatMap Address.octets) := by
    rw [← List.flatMap_cons, ← List.drop_eq_getElem_cons inside, ← List.flatMap_append,
      List.take_append_drop]
  refine readAt_of_slice ?_
  rw [split, ← List.append_assoc, ← List.append_assoc]
  refine Bytes.slice_between _ ?_ (octets_length _)
  rw [List.length_append, flatMap_octets_length, List.length_take_of_le (Nat.le_of_lt inside)]
  omega

namespace RoutingHeader

section Encode

variable (segments : List (Address .v6)) (left : UInt8) (cleanup : Bool)

/-- A header that is written is so long. -/
theorem encode_length : (encode segments left cleanup).length = 8 + 16 * segments.length := by
  rw [encode, List.length_append, Address.flatMap_octets_length, List.length_reverse]
  rfl

/-- A header that is written carries a segment list. -/
theorem encode_isSegmentList : (mk (encode segments left cleanup)).isSegmentList := by
  have type : (mk (encode segments left cleanup)).kind = segmentType := rfl
  rw [isSegmentList, type, encode_length]
  simp [fixedSize]

/-- The flag for the removal of the header reads back. -/
theorem encode_cleanup : (mk (encode segments left cleanup)).cleanup = cleanup := by
  have flag : (mk (encode segments left cleanup)).flags = if cleanup then cleanupFlag else 0 := rfl
  rw [RoutingHeader.cleanup, flag]
  cases cleanup
  · decide
  · decide

/-- The wire keeps the segments in reverse, so those that are left are counted from the end. -/
theorem encode_segment? {index : Nat} (inside : index < segments.length) :
    (mk (encode segments left cleanup)).segment? (segments.length - 1 - index) =
      some segments[index] := by
  -- There is room for each segment, and the one that is wanted is stored in the reversed list.
  have room : fixedSize + (segments.length - 1 - index) * 16 + 16 ≤
      (encode segments left cleanup).length := by
    rw [encode_length, fixedSize]
    omega
  have stored : segments.length - 1 - index < segments.reverse.length := by
    rw [List.length_reverse]
    omega
  rw [segment?]
  simp only
  rw [if_pos room]
  -- Reading behind the fixed part gives the segment of the reversed list at that place.
  refine congrArg some ((Address.readAt_flatMap _ segments.reverse stored).trans ?_)
  rw [List.getElem_reverse]
  congr 1
  omega

end Encode

section Announcement

variable {header other : RoutingHeader} (same : header.bytes.drop 1 = other.bytes.drop 1)
include same

/-- A byte behind the announcement is the same in headers that only differ there. -/
theorem byteAt_of_drop (index : Nat) :
    Bytes.byteAt header.bytes (index + 1) = Bytes.byteAt other.bytes (index + 1) := by
  have read := congrArg (Bytes.byteAt · index) same
  simpa only [Bytes.byteAt_drop, Nat.add_comm 1 index] using read

/-- The announcement does not count for the removal. -/
theorem cleanup_of_drop : header.cleanup = other.cleanup := by
  rw [cleanup, cleanup, flags, flags, byteAt_of_drop same]

/-- The announcement does not count for the count of segments. -/
theorem segmentsLeft_of_drop : header.segmentsLeft = other.segmentsLeft :=
  byteAt_of_drop same 2

/-- The announcement does not count for the end of the list. -/
theorem lastEntry_of_drop : header.lastEntry = other.lastEntry :=
  byteAt_of_drop same 3

/-- The announcement does not count for the length, if there is one. -/
theorem length_of_drop (some : header.bytes ≠ []) (any : other.bytes ≠ []) :
    header.bytes.length = other.bytes.length := by
  have lengths := congrArg List.length same
  have first := List.length_pos_iff.mpr some
  have second := List.length_pos_iff.mpr any
  rw [List.length_drop, List.length_drop] at lengths
  omega

/-- The announcement does not count for the kind. -/
theorem isSegmentList_of_drop (some : header.bytes ≠ []) (any : other.bytes ≠ []) :
    header.isSegmentList = other.isSegmentList := by
  have type : header.kind = other.kind := byteAt_of_drop same 1
  rw [isSegmentList, isSegmentList, type, length_of_drop same some any]

/-- The announcement does not count for the segments. -/
theorem segment?_of_drop (some : header.bytes ≠ []) (any : other.bytes ≠ []) (index : Nat) :
    header.segment? index = other.segment? index := by
  have read : (Address.readAt header.bytes (fixedSize + index * 16) : Address .v6) =
      Address.readAt other.bytes (fixedSize + index * 16) := by
    have shifted : fixedSize + index * 16 = 1 + (7 + index * 16) := by
      simp only [fixedSize]
      omega
    -- A segment stands behind the first byte.
    refine Address.readAt_congr ?_
    rw [Bytes.slice, Bytes.slice, shifted, ← List.drop_drop, same, List.drop_drop]
  rw [segment?, segment?, length_of_drop same some any, read]

end Announcement

end RoutingHeader

end NetworkLayer
