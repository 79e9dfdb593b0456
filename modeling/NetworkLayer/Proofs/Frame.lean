import NetworkLayer.Frame
import NetworkLayer.Proofs.Mac

/-! A frame reads back as it was written, but for the zeros behind a payload that is too small. -/

namespace NetworkLayer

/-- A link-layer address between two byte strings reads back. -/
theorem Mac.readAt_between {front : Bytes} (mac : Mac) (back : Bytes) {start : Nat}
    (before : front.length = start) : readAt (front ++ mac.octets ++ back) start = mac := by
  rw [readAt, Bytes.slice_between back before mac.octets_length, ofNat_value_octets]

/-- A frame with bytes behind it has them behind its payload. -/
theorem Frame.parse_append {bytes : Bytes} {frame : Frame} (read : parse bytes = .ok frame)
    (padding : Bytes) :
    parse (bytes ++ padding) = .ok { frame with payload := frame.payload ++ padding } := by
  unfold parse at read
  split at read
  · cases read
  · rename_i long
    have header : 14 ≤ bytes.length := Nat.le_of_not_lt long
    cases read
    have longer : ¬ (bytes ++ padding).length < headerSize := by
      rw [List.length_append]
      omega
    -- The three fields of the header stand in front of what was appended.
    rw [parse, if_neg longer, Mac.readAt, Mac.readAt, Bytes.wordAt,
      Bytes.slice_append_left padding (by omega), Bytes.slice_append_left padding (by omega),
      Bytes.slice_append_left padding (by omega), headerSize, List.drop_append_of_le_length header]
    rfl

/-- A frame takes no more bytes than the least frame and its payload. -/
theorem Frame.encode_length_le (destination source : Mac) (etherType : EtherType) (payload : Bytes) :
    (encode destination source etherType payload).length ≤ leastSize + payload.length := by
  simp only [encode, List.length_append, Mac.octets_length, Bytes.ofWord_length, Bytes.zeros,
    List.length_replicate, leastSize]
  omega

/-- A frame carries its payload to its destination. -/
theorem Frame.parse_encode (destination source : Mac) (etherType : EtherType) (payload : Bytes) :
    parse (encode destination source etherType payload) = .ok {
      destination
      source
      etherType := etherType.code
      payload := payload ++ Bytes.zeros (leastSize - (headerSize + payload.length)) } := by
  have first := destination.octets_length
  have second := source.octets_length
  have third : (Bytes.ofWord etherType.code).length = 2 := Bytes.ofWord_length _
  have size : (destination.octets ++ source.octets ++ Bytes.ofWord etherType.code ++
      payload).length = headerSize + payload.length := by
    simp only [List.length_append, first, second, third, headerSize]
  -- The header of three fields stands in front of the payload and its padding.
  have spread : encode destination source etherType payload =
      destination.octets ++ source.octets ++ Bytes.ofWord etherType.code ++
        (payload ++ Bytes.zeros (leastSize - (headerSize + payload.length))) := by
    rw [encode, size, List.append_assoc]
  rw [spread]
  -- From here on the rest is whatever stands behind the header.
  generalize payload ++ Bytes.zeros _ = rest
  have long : ¬ (destination.octets ++ source.octets ++ Bytes.ofWord etherType.code ++
      rest).length < headerSize := by
    simp only [List.length_append, first, second, third, headerSize]
    omega
  have station : Mac.readAt (destination.octets ++ source.octets ++ Bytes.ofWord etherType.code ++
      rest) 0 = destination := by
    rw [List.append_assoc, List.append_assoc]
    exact @Mac.readAt_between [] destination _ 0 rfl
  have start : (destination.octets ++ source.octets).length = 12 := by
    simp only [List.length_append, first, second]
  -- The three fields are read in turn, each where the one before it ends.
  rw [parse, if_neg long, station, List.append_assoc _ _ rest, source.readAt_between _ first]
  rw [← List.append_assoc, Bytes.wordAt_between _ rest start, List.drop_left']
  simp only [List.length_append, first, second, third, headerSize]

end NetworkLayer
