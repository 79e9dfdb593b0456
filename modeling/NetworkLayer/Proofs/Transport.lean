import NetworkLayer.Proofs.Checksum
import NetworkLayer.Transport

/-! Ports of segments: a new port reads back, and a fresh checksum leaves both ports alone. -/

namespace NetworkLayer

namespace Transport

section Stamp

variable {source destination : Address .v4} {protocol : UInt8} {offset : Nat} {segment : Bytes}
  {replacing : UInt16 → UInt16} (fits : offset + 2 ≤ segment.length)
include fits

/-- A segment is stamped by writing one word. -/
theorem stamp_eq : stamp source destination protocol offset segment replacing =
    Bytes.patch segment offset (Bytes.ofWord (replacing
      (checksum source destination protocol (Bytes.patch segment offset [0, 0])))) :=
  Bytes.patch_patch (by omega) (by rw [Bytes.ofWord_length]; rfl)

/-- A word in front of the checksum is left alone by it. -/
theorem wordAt_stamp_of_before {start : Nat} (before : start + 2 ≤ offset) :
    Bytes.wordAt (stamp source destination protocol offset segment replacing) start =
      Bytes.wordAt segment start := by
  rw [stamp_eq fits, Bytes.wordAt_patch_of_apart _ (by omega) (Or.inl before)]

/-- The word of the checksum is the one that was written. -/
theorem wordAt_stamp : Bytes.wordAt (stamp source destination protocol offset segment replacing)
    offset = replacing
      (checksum source destination protocol (Bytes.patch segment offset [0, 0])) := by
  rw [stamp_eq fits, Bytes.wordAt_patch _ (by omega)]

/-- A checksum word within the segment keeps its length. -/
theorem stamp_length :
    (stamp source destination protocol offset segment replacing).length = segment.length := by
  rw [stamp_eq fits, Bytes.patch_word_length fits]

end Stamp

variable {segment : Bytes} (port : UInt16)

/-- A new port leaves the length alone. -/
theorem withSourcePort_length (room : 8 ≤ segment.length) :
    (withSourcePort segment port).length = segment.length :=
  Bytes.patch_length (by rw [Bytes.ofWord_length]; omega)

/-- A new port leaves the length alone. -/
theorem withDestinationPort_length (room : 8 ≤ segment.length) :
    (withDestinationPort segment port).length = segment.length :=
  Bytes.patch_length (by rw [Bytes.ofWord_length]; omega)

/-- The new source port reads back. -/
theorem withSourcePort_sourcePort : sourcePort (withSourcePort segment port) = port :=
  Bytes.wordAt_patch port (Nat.zero_le _)

/-- A new source port leaves the destination port alone. -/
theorem withSourcePort_destinationPort :
    destinationPort (withSourcePort segment port) = destinationPort segment :=
  Bytes.wordAt_patch_of_apart _ (Nat.zero_le _) (Or.inr (by simp))

/-- The new destination port reads back. -/
theorem withDestinationPort_destinationPort (room : 8 ≤ segment.length) :
    destinationPort (withDestinationPort segment port) = port :=
  Bytes.wordAt_patch port (by omega)

/-- A new destination port leaves the source port alone. -/
theorem withDestinationPort_sourcePort (room : 8 ≤ segment.length) :
    sourcePort (withDestinationPort segment port) = sourcePort segment :=
  Bytes.wordAt_patch_of_apart _ (by omega) (Or.inl (by omega))

end Transport

/-- A TCP segment that is read has room for a header. -/
theorem TcpSegment.parse_eq_ok {bytes : Bytes} {segment : TcpSegment}
    (read : TcpSegment.parse bytes = .ok segment) :
    segment.bytes = bytes ∧ TcpSegment.leastHeader ≤ bytes.length := by
  -- Only a segment that passes all three checks is read.
  simp only [TcpSegment.parse] at read
  split at read
  · cases read
  split at read
  · cases read
  split at read
  · cases read
  cases read
  exact ⟨rfl, by omega⟩

/-- A UDP datagram that is read has room for a header. -/
theorem UdpDatagram.parse_eq_ok {bytes : Bytes} {datagram : UdpDatagram}
    (read : UdpDatagram.parse bytes = .ok datagram) :
    datagram.bytes = bytes ∧ UdpDatagram.headerSize ≤ bytes.length := by
  -- A datagram is checked for its length alone.
  simp only [UdpDatagram.parse] at read
  split at read
  · cases read
  cases read
  exact ⟨rfl, by omega⟩

namespace UdpDatagram

/-- A checksum that is sent is not zero. -/
theorem nonzero_ne_zero (checksum : UInt16) : nonzero checksum ≠ 0 := by
  rw [nonzero]
  split
  · decide
  · assumption

/-- All ones count as much as the zero that they stand for. -/
theorem nonzero_mod (checksum : UInt16) :
    (nonzero checksum).toNat % 65535 = checksum.toNat % 65535 := by
  -- Zero is replaced by all ones, and both are zero modulo 65535.
  rw [nonzero]
  split
  · rename_i zero
    rw [zero]
    rfl
  · rfl

variable (sourcePort destinationPort : UInt16) (payload : Bytes) (source destination : Address .v4)

/-- A new datagram before its checksum is written. -/
def fields : Bytes :=
  Bytes.ofWord sourcePort ++ Bytes.ofWord destinationPort ++
    Bytes.ofWord (UInt16.ofNat (headerSize + payload.length)) ++ [0, 0] ++ payload

/-- The fields are a header and what follows it. -/
theorem fields_length :
    (fields sourcePort destinationPort payload).length = headerSize + payload.length := by
  simp only [fields, headerSize, List.length_append, Bytes.ofWord_length, List.length_cons,
    List.length_nil]

/-- The checksum word lies within the fields. -/
theorem checksum_within :
    checksumOffset + 2 ≤ (fields sourcePort destinationPort payload).length := by
  rw [fields_length]
  exact Nat.le_add_right _ _

/-- A new datagram is a header and what follows it. -/
theorem encode_length : (encode sourcePort destinationPort payload source destination).length =
    headerSize + payload.length :=
  (Transport.stamp_length (checksum_within ..)).trans (fields_length ..)

/-- The source port of a new datagram reads back. -/
theorem encode_sourcePort :
    Transport.sourcePort (encode sourcePort destinationPort payload source destination) =
      sourcePort := by
  -- The checksum stands behind both ports.
  refine (Transport.wordAt_stamp_of_before (checksum_within ..) (by decide)).trans ?_
  simp only [fields, List.append_assoc]
  -- Nothing stands in front of the first word.
  exact Bytes.wordAt_between sourcePort _ (show ([] : Bytes).length = 0 from rfl)

/-- The destination port of a new datagram reads back. -/
theorem encode_destinationPort :
    Transport.destinationPort (encode sourcePort destinationPort payload source destination) =
      destinationPort := by
  -- The checksum stands behind both ports.
  refine (Transport.wordAt_stamp_of_before (checksum_within ..) (by decide)).trans ?_
  rw [fields, List.append_assoc, List.append_assoc]
  exact Bytes.wordAt_between destinationPort _ (Bytes.ofWord_length sourcePort)

end UdpDatagram

end NetworkLayer
