import NetworkLayer.Packet
import NetworkLayer.Proofs.Ipv4
import NetworkLayer.Proofs.Ipv6

/-!
Packets of either family that read back from their bytes, and what one hop makes of them: the count of
hops goes down by one and nothing else changes but the checksum of an IPv4 header.
-/

namespace NetworkLayer.Packet

variable {family : Family}

/-- A packet that reads back from its bytes. -/
def WellFormed {family : Family} (packet : Packet family) : Prop :=
  match family, packet with
  | .v4, packet => Ipv4Packet.WellFormed packet
  | .v6, packet => Ipv6Packet.WellFormed packet

/-- The length of the packet that starts a byte string, as its header declares it. -/
def declaredLength (family : Family) (data : Bytes) : Nat :=
  match family with
  | .v4 => (Bytes.wordAt data 2).toNat
  | .v6 => Ipv6Packet.headerSize + (Bytes.wordAt data 4).toNat

/-- Where the count of hops stands. -/
def hopsOffset : Family → Nat
  | .v4 => 8
  | .v6 => 7

/-- How many hops the packet may make, the last of which it does not survive. -/
def hopsLeft (packet : Packet family) : UInt8 :=
  Bytes.byteAt packet.bytes (hopsOffset family)

/-- Whether the checksum of the header holds; an IPv6 header has none. -/
def headerVerifies {family : Family} (packet : Packet family) : Bool :=
  match family, packet with
  | .v4, packet => Ipv4Packet.headerVerifies packet
  | .v6, _ => true

/-- Whether a byte belongs to the checksum of a header. -/
def InChecksum (family : Family) (index : Nat) : Prop :=
  family = .v4 ∧ 10 ≤ index ∧ index < 12

/-- What is read is well formed, and it is the part of the data that its header declares. -/
theorem parse_cases {data : Bytes} {packet : Packet family}
    (read : parse family data = .ok packet) :
    packet.WellFormed ∧ packet.bytes = data.take (declaredLength family data) ∧
      declaredLength family data ≤ data.length := by
  cases family with
  | v4 => exact Ipv4Packet.parse_cases read
  | v6 => exact Ipv6Packet.parse_cases read

/-- A well-formed packet reads back from its bytes, whatever padding stands behind them. -/
theorem WellFormed.parse_append {packet : Packet family} (wellFormed : packet.WellFormed)
    (padding : Bytes) : parse family (packet.bytes ++ padding) = .ok packet := by
  cases family with
  | v4 => exact Ipv4Packet.WellFormed.parse_append wellFormed padding
  | v6 => exact Ipv6Packet.WellFormed.parse_append wellFormed padding

/-- A well-formed packet reads back from its bytes. -/
theorem WellFormed.parse {packet : Packet family} (wellFormed : packet.WellFormed) :
    parse family packet.bytes = .ok packet := by
  have read := wellFormed.parse_append []
  rwa [List.append_nil] at read

/-- A packet as it leaves a router, next to the packet that came in. -/
structure OneHopOn (before after : Packet family) : Prop where
  wellFormed : after.WellFormed
  length : after.bytes.length = before.bytes.length
  hops : after.hopsLeft = before.hopsLeft - 1
  verifies : after.headerVerifies
  kept : ∀ index, index ≠ hopsOffset family → ¬ InChecksum family index →
    after.bytes[index]? = before.bytes[index]?

/-- One hop on, a packet is for the same upper layer and the same destination. -/
structure SameRoute (before after : Packet family) : Prop where
  destination : after.destination = before.destination
  protocol : after.upperProtocol = before.upperProtocol
  payload : after.upperPayload = before.upperPayload

/-- An IPv4 packet makes one hop more if its time to live allows it. -/
theorem hopped?_v4 {packet : Packet .v4} (wellFormed : packet.WellFormed)
    (lives : 1 < packet.hopsLeft) : ∃ hopped, packet.hopped? = some hopped ∧
      OneHopOn packet hopped ∧ SameRoute packet hopped := by
  have formed : Ipv4Packet.WellFormed packet := wellFormed
  have fits := formed.fits
  have least : (20 : Nat) ≤ Ipv4Packet.headerLength packet := fits.1
  have within : 8 + [Ipv4Packet.ttl packet - 1].length ≤ Ipv4Packet.headerLength packet := by
    simp only [List.length_singleton]
    omega
  have spare : ¬ Ipv4Packet.ttl packet ≤ 1 := UInt8.not_le.mpr lives
  -- Writing the time to live touches its byte and the two of the checksum, and this holds of every other byte.
  have kept {index : Nat} (clear : index < 10 ∨ 12 ≤ index) (other : index ≠ 8) :=
    Ipv4Packet.withField_getElem? fits within clear
      (show index < 8 ∨ 8 + [Ipv4Packet.ttl packet - 1].length ≤ index by
        simp only [List.length_singleton]
        omega)
  refine ⟨Ipv4Packet.withTtl packet (Ipv4Packet.ttl packet - 1), if_neg spare, ?_, ?_⟩
  · -- One hop more: the header verifies, the byte is one less, and the clear bytes are as they were.
    refine ⟨formed.withTtl _, Ipv4Packet.withField_length fits within, ?_,
      formed.withField_verifies within, ?_⟩
    · exact Bytes.byteAt_of_slice (Ipv4Packet.slice_withField fits within (Or.inl (by simp)))
    · intro index other clear
      refine kept ?_ other
      rcases Nat.lt_or_ge index 10 with before | reached
      · exact Or.inl before
      · exact Or.inr (Nat.le_of_not_lt fun inside => clear ⟨rfl, reached, inside⟩)
  · -- The route is the same, since destination and protocol lie apart from both fields.
    refine ⟨?_, ?_, Ipv4Packet.withField_payload fits within⟩
    · exact Address.readAt_congr (Ipv4Packet.slice_withField_of_apart fits within
        (show 16 + 4 ≤ _ by omega) (Or.inr (by decide)) (Or.inr (by simp)))
    · exact Bytes.byteAt_congr (kept (Or.inl (by decide)) (by decide))

/-- An IPv6 packet makes one hop more if its hop limit allows it. -/
theorem hopped?_v6 {packet : Packet .v6} (wellFormed : packet.WellFormed)
    (lives : 1 < packet.hopsLeft) : ∃ hopped, packet.hopped? = some hopped ∧
      OneHopOn packet hopped ∧ SameRoute packet hopped := by
  have formed : Ipv6Packet.WellFormed packet := wellFormed
  have room : (40 : Nat) ≤ (Ipv6Packet.bytes packet).length := formed.room
  have spare : ¬ Ipv6Packet.hopLimit packet ≤ 1 := UInt8.not_le.mpr lives
  refine ⟨Ipv6Packet.withHopLimit packet (Ipv6Packet.hopLimit packet - 1), if_neg spare, ?_, ?_⟩
  · refine ⟨formed.withHopLimit _, Bytes.patch_byte_length (by omega) _,
      Ipv6Packet.withHopLimit_hopLimit formed _, rfl, ?_⟩
    intro index other _
    -- The hop limit is the only byte that is written.
    refine (Bytes.patch_getElem? _ (by omega) index).trans (if_neg ?_)
    simp only [List.length_singleton, hopsOffset] at other ⊢
    omega
  · refine ⟨?_, rfl, Ipv6Packet.withField_upperPayload formed (by simp [Ipv6Packet.headerSize])⟩
    exact Address.readAt_congr (Bytes.slice_patch_of_apart _ (by omega) (Or.inr (by simp)))

/-- A packet makes one hop more if its count of hops allows it. -/
theorem hopped?_of_lt {packet : Packet family} (wellFormed : packet.WellFormed)
    (lives : 1 < packet.hopsLeft) : ∃ hopped, packet.hopped? = some hopped ∧
      OneHopOn packet hopped ∧ SameRoute packet hopped := by
  cases family with
  | v4 => exact hopped?_v4 wellFormed lives
  | v6 => exact hopped?_v6 wellFormed lives

/-- A packet whose hops are used up makes no further one. -/
theorem hopped?_eq_none {packet : Packet family} (spent : packet.hopsLeft ≤ 1) :
    packet.hopped? = none := by
  cases family with
  | v4 => exact if_pos spent
  | v6 => exact if_pos spent

end NetworkLayer.Packet
