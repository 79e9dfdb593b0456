import NetworkLayer.Proofs.Arp
import NetworkLayer.Proofs.Packet

/-!
Packets in frames. Main statement: what is sent in a frame is read from it again, addresses, type and
packet, whatever bytes a small frame is filled up with.
-/

namespace NetworkLayer

/-- A reader that finds the end of what it reads by itself: bytes behind make no difference. -/
def Delimited {α : Type} (read : Bytes → Except Error α) : Prop :=
  ∀ data value, read data = .ok value → ∀ trailing, read (data ++ trailing) = .ok value

/-- A packet ends where its header says. -/
theorem Packet.parse_delimited (family : Family) : Delimited (Packet.parse family) := by
  intro data packet read trailing
  obtain ⟨wellFormed, bytes, within⟩ := Packet.parse_cases read
  -- What stands behind the declared length is padding, and the trailing bytes follow it.
  have front : data ++ trailing =
      packet.bytes ++ (data.drop (Packet.declaredLength family data) ++ trailing) := by
    rw [bytes, ← List.append_assoc, List.take_append_drop]
  rw [front]
  exact wellFormed.parse_append _

/-- An ARP packet has one size. -/
theorem ArpPacket.parse_delimited : Delimited ArpPacket.parse := by
  intro buffer packet read trailing
  -- The packet is written as the front of the buffer.
  have front : buffer ++ trailing = packet.encode ++ (buffer.drop size ++ trailing) := by
    rw [encode_of_parse read, ← List.append_assoc, List.take_append_drop]
  rw [front]
  exact packet.parse_encode _

/-- The code of a payload type tells the type. -/
theorem EtherType.ofCode?_code (etherType : EtherType) : ofCode? etherType.code = some etherType := by
  cases etherType <;> rfl

namespace Frame

/-- A frame brings a value from one station to another: its header reads back, and its payload is read as the value. -/
def Carries {α : Type} (bytes : Bytes) (destination source : Mac) (etherType : EtherType)
    (read : Bytes → Except Error α) (value : α) : Prop :=
  ∃ frame, parse bytes = .ok frame ∧ frame.destination = destination ∧ frame.source = source ∧
    frame.etherType = etherType.code ∧ EtherType.ofCode? frame.etherType = some etherType ∧
    read frame.payload = .ok value

/-- A frame carries whatever is read from its payload by a reader that looks for the end itself. -/
theorem carries_of_delimited {α : Type} {read : Bytes → Except Error α} (delimited : Delimited read)
    {payload : Bytes} {value : α} (written : read payload = .ok value)
    (destination source : Mac) (etherType : EtherType) (padding : Bytes) :
    Carries (encode destination source etherType payload ++ padding) destination source etherType
      read value := by
  -- Zeros fill up a small frame, and the padding of the medium follows them.
  refine ⟨_, parse_append (parse_encode destination source etherType payload) padding, rfl, rfl, rfl,
    etherType.ofCode?_code, ?_⟩
  rw [List.append_assoc]
  exact delimited payload value written _

/-- Framing is transparent: every packet that was read from some bytes and every ARP packet is read again from the frame
that carries it, with both stations and the type, however the frame is padded. Packets are also read again from their
bytes with anything behind them. -/
theorem framing_transparent (destination source : Mac) (etherType : EtherType) :
    (∀ (family : Family) (data : Bytes) (packet : Packet family),
      Packet.parse family data = .ok packet →
        (∀ padding, Carries (encode destination source etherType packet.bytes ++ padding)
          destination source etherType (Packet.parse family) packet) ∧
        ∀ trailing, Packet.parse family (data ++ trailing) = .ok packet) ∧
    ∀ (packet : ArpPacket) (padding : Bytes),
      Carries (encode destination source etherType packet.encode ++ padding)
        destination source etherType ArpPacket.parse packet := by
  constructor
  · intro family data packet read
    -- The bytes of the packet alone are read like those that it was read from.
    have again : Packet.parse family packet.bytes = .ok packet := (Packet.parse_cases read).1.parse
    constructor
    · intro padding
      exact carries_of_delimited (Packet.parse_delimited family) again ..
    · intro trailing
      exact Packet.parse_delimited family data packet read trailing
  · intro packet padding
    have again : ArpPacket.parse packet.encode = .ok packet := by
      simpa using packet.parse_encode []
    exact carries_of_delimited ArpPacket.parse_delimited again ..

/-- An IPv4 packet with options and without payload, which a frame has to be padded for. -/
def optionsOnly : Bytes :=
  [0x46, 0, 0, 24, 0, 1, 0x40, 0, 64, 17, 0, 0, 10, 0, 0, 1, 10, 0, 0, 2, 1, 1, 1, 0]

/-- An IPv4 packet without payload is read again from its frame and from a longer byte string. -/
theorem optionsOnly_carried :
    Packet.parse .v4 optionsOnly = .ok (⟨optionsOnly, 24⟩ : Ipv4Packet) ∧
    Carries (encode Mac.broadcast (Mac.localUnicast 1) .ipv4 optionsOnly ++ [0xAB]) Mac.broadcast
      (Mac.localUnicast 1) .ipv4 (Packet.parse .v4) (⟨optionsOnly, 24⟩ : Ipv4Packet) ∧
    Packet.parse .v4 (optionsOnly ++ [1, 2, 3]) = .ok (⟨optionsOnly, 24⟩ : Ipv4Packet) := by
  have read : Packet.parse .v4 optionsOnly = .ok (⟨optionsOnly, 24⟩ : Ipv4Packet) := rfl
  have both := (framing_transparent Mac.broadcast (Mac.localUnicast 1) .ipv4).1 .v4 _ _ read
  exact ⟨read, both.1 [0xAB], both.2 [1, 2, 3]⟩

end Frame

end NetworkLayer
