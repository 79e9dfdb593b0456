import NetworkLayer.Arp
import NetworkLayer.Proofs.Address
import NetworkLayer.Proofs.Frame

/-! An ARP packet reads back as it was written, whatever padding stands behind it. -/

namespace NetworkLayer

/-- The operation of a code reads back. -/
theorem ArpOperation.ofCode?_code (operation : ArpOperation) :
    ofCode? operation.code = some operation := by
  cases operation <;> rfl

/-- What is found for a code has it. -/
theorem ArpOperation.code_of_ofCode? {code : UInt16} {operation : ArpOperation}
    (found : ofCode? code = some operation) : operation.code = code := by
  simpa using List.find?_some found

/-- An ARP packet takes so many bytes. -/
theorem ArpPacket.encode_length (packet : ArpPacket) : packet.encode.length = size := by
  have station (mac : Mac) := mac.octets_length
  have quad (address : Address .v4) : address.octets.length = 4 := Address.octets_length address
  simp only [encode, List.length_append, preamble, Bytes.ofWord_length, station, quad,
    List.length_cons, List.length_nil, size]

/-- An ARP packet reads back from its own bytes, padded or not. -/
theorem ArpPacket.parse_encode (packet : ArpPacket) (padding : Bytes) :
    parse (packet.encode ++ padding) = .ok packet := by
  have station (mac : Mac) := mac.octets_length
  have quad (address : Address .v4) : address.octets.length = 4 := Address.octets_length address
  have word : (Bytes.ofWord packet.operation.code).length = 2 := Bytes.ofWord_length _
  have fixed : preamble.length = 6 := rfl
  -- Every field stands between what is written before it and what is written behind it.
  have spread : packet.encode ++ padding = preamble ++ (Bytes.ofWord packet.operation.code ++
      (packet.senderMac.octets ++ (packet.sender.octets ++ (packet.targetMac.octets ++
        (packet.target.octets ++ padding))))) := by
    simp only [encode, List.append_assoc]
  have operation : Bytes.wordAt (packet.encode ++ padding) 6 = packet.operation.code := by
    rw [spread, ← List.append_assoc]
    exact Bytes.wordAt_between _ _ fixed
  have senderMac : Mac.readAt (packet.encode ++ padding) 8 = packet.senderMac := by
    rw [spread, ← List.append_assoc, ← List.append_assoc]
    exact Mac.readAt_between _ _ (by simp only [List.length_append, fixed, word])
  have sender : Address.readAt (packet.encode ++ padding) 14 = packet.sender := by
    refine Address.readAt_of_slice ?_
    rw [spread]
    iterate 3 rw [← List.append_assoc]
    exact Bytes.slice_between _ (by simp only [List.length_append, fixed, word, station]) (quad _)
  have targetMac : Mac.readAt (packet.encode ++ padding) 18 = packet.targetMac := by
    rw [spread]
    iterate 4 rw [← List.append_assoc]
    exact Mac.readAt_between _ _ (by simp only [List.length_append, fixed, word, station, quad])
  have target : Address.readAt (packet.encode ++ padding) 24 = packet.target := by
    refine Address.readAt_of_slice ?_
    rw [spread]
    iterate 5 rw [← List.append_assoc]
    exact Bytes.slice_between _ (by simp only [List.length_append, fixed, word, station, quad])
      (quad _)
  have long : ¬ (packet.encode ++ padding).length < size := by
    rw [List.length_append, packet.encode_length]
    omega
  -- The preamble is the same for every packet.
  have hardware : Bytes.wordAt (packet.encode ++ padding) 0 = 1 := by
    rw [spread]
    rfl
  have protocol : Bytes.wordAt (packet.encode ++ padding) 2 = 0x0800 := by
    rw [spread]
    rfl
  have lengths : Bytes.byteAt (packet.encode ++ padding) 4 = 6 ∧
      Bytes.byteAt (packet.encode ++ padding) 5 = 4 := by
    rw [spread]
    exact ⟨rfl, rfl⟩
  simp only [parse, if_neg long, hardware, protocol, lengths, operation, senderMac, sender, targetMac,
    target, ArpOperation.ofCode?_code, ne_eq, not_true_eq_false, or_self, if_false]

/-- An ARP packet is written as the bytes that it was read from; what stood behind them is lost. -/
theorem ArpPacket.encode_of_parse {buffer : Bytes} {packet : ArpPacket}
    (read : parse buffer = .ok packet) : packet.encode = buffer.take size := by
  unfold parse at read
  -- Each check that a packet passes is one about a field with a fixed value.
  split at read
  · cases read
  rename_i long
  have room : 28 ≤ buffer.length := Nat.le_of_not_lt long
  split at read
  · cases read
  rename_i hardware
  split at read
  · cases read
  rename_i protocol
  split at read
  · cases read
  rename_i lengths
  rw [not_or, Decidable.not_not, Decidable.not_not] at lengths
  split at read
  · cases read
  rename_i operation found
  cases read
  -- The fields follow one another from the first byte to the last.
  have preamble : buffer.take 6 = preamble := by
    rw [Bytes.take_add buffer 5 1, Bytes.take_add buffer 4 1, Bytes.take_add buffer 2 2,
      Bytes.take_add buffer 0 2, Bytes.slice_one (by omega), Bytes.slice_one (by omega),
      ← Bytes.ofWord_wordAt (by omega), ← Bytes.ofWord_wordAt (by omega), lengths.1, lengths.2,
      Decidable.not_not.mp hardware, Decidable.not_not.mp protocol]
    rfl
  have word : Bytes.ofWord operation.code = Bytes.slice buffer 6 2 := by
    rw [ArpOperation.code_of_ofCode? found, Bytes.ofWord_wordAt (by omega)]
  have quad (offset : Nat) (within : offset + 4 ≤ buffer.length) :
      (Address.readAt buffer offset : Address .v4).octets = Bytes.slice buffer offset 4 :=
    Address.octets_readAt within
  unfold encode
  dsimp only
  rw [size, Bytes.take_add buffer 24 4, Bytes.take_add buffer 18 6,
    Bytes.take_add buffer 14 4, Bytes.take_add buffer 8 6, Bytes.take_add buffer 6 2, preamble,
    word, Mac.octets_readAt (by omega), Mac.octets_readAt (by omega), quad 14 (by omega),
    quad 24 (by omega)]

end NetworkLayer
