import NetworkLayer.Proofs.Ipv4
import NetworkLayer.Proofs.Transport
import NetworkLayer.Translation.Translator

/-!
The two ends of a conversation, read off a packet, and what a translation does to them: it replaces
the near end and leaves the far end alone.
-/

namespace NetworkLayer

namespace PortProtocol

variable {protocol : PortProtocol} {payload segment : Bytes}

/-- Where the checksum of a segment stands. -/
def checksumOffset : PortProtocol → Nat
  | tcp => TcpSegment.checksumOffset
  | udp => UdpDatagram.checksumOffset

/-- Reading a segment checks that its checksum and its ports lie within it. -/
theorem segment?_eq_ok (read : protocol.segment? payload = .ok segment) :
    segment = payload ∧ protocol.checksumOffset + 2 ≤ payload.length := by
  -- Each protocol checks its own header, which is long enough for its checksum.
  cases protocol with
  | tcp =>
    cases parsed : TcpSegment.parse payload with
    | error cause => simp [segment?, parsed, Except.map] at read
    | ok whole =>
      obtain ⟨same, room⟩ := TcpSegment.parse_eq_ok parsed
      simp only [segment?, parsed, Except.map, Except.ok.injEq] at read
      exact ⟨read.symm.trans same, Nat.le_trans (by decide) room⟩
  | udp =>
    cases parsed : UdpDatagram.parse payload with
    | error cause => simp [segment?, parsed, Except.map] at read
    | ok whole =>
      obtain ⟨same, room⟩ := UdpDatagram.parse_eq_ok parsed
      simp only [segment?, parsed, Except.map, Except.ok.injEq] at read
      exact ⟨read.symm.trans same, Nat.le_trans (by decide) room⟩

/-- Both ports stand in front of the checksum. -/
theorem ports_before_checksum (protocol : PortProtocol) : 6 ≤ protocol.checksumOffset := by
  cases protocol <;> decide

/-- A fresh checksum leaves the words of the ports alone. -/
theorem wordAt_refreshed {source destination : Address .v4} {start : Nat}
    (fits : protocol.checksumOffset + 2 ≤ segment.length) (before : start + 2 ≤ 6) :
    Bytes.wordAt (protocol.refreshed segment source destination) start =
      Bytes.wordAt segment start := by
  have earlier := protocol.ports_before_checksum
  cases protocol with
  | tcp => exact Transport.wordAt_stamp_of_before fits (Nat.le_trans before earlier)
  | udp =>
    simp only [refreshed, UdpDatagram.refreshed]
    -- A datagram without a checksum stays without one.
    split
    · rfl
    · exact Transport.wordAt_stamp_of_before fits (Nat.le_trans before earlier)

/-- A fresh checksum leaves the source port alone. -/
theorem sourcePort_refreshed {source destination : Address .v4}
    (fits : protocol.checksumOffset + 2 ≤ segment.length) :
    Transport.sourcePort (protocol.refreshed segment source destination) =
      Transport.sourcePort segment :=
  wordAt_refreshed fits (by decide)

/-- A fresh checksum leaves the destination port alone. -/
theorem destinationPort_refreshed {source destination : Address .v4}
    (fits : protocol.checksumOffset + 2 ≤ segment.length) :
    Transport.destinationPort (protocol.refreshed segment source destination) =
      Transport.destinationPort segment :=
  wordAt_refreshed fits (by decide)

end PortProtocol

/-- The identifier of an echo message reads back. -/
theorem IcmpMessage.withIdentifier_identifier (message : IcmpMessage) (identifier : UInt16)
    (room : IcmpMessage.headerSize ≤ message.bytes.length) :
    (message.withIdentifier identifier).identifier = identifier := by
  have room : 8 ≤ message.bytes.length := room
  have patched : (Bytes.patch message.bytes 4 (Bytes.ofWord identifier)).length =
      message.bytes.length := Bytes.patch_length (by rw [Bytes.ofWord_length]; omega)
  -- The checksum stands in front of the identifier.
  rw [IcmpMessage.identifier, IcmpMessage.withIdentifier, IcmpMessage.refreshed, Bytes.wordAt,
    Checksum.slice_stamp_of_apart (by rw [patched]; exact Nat.le_trans (by decide) room)
      (Or.inr (by decide))]
  exact Bytes.wordAt_patch identifier (by omega)

/-- The two ends of a conversation: one on the translator's side, the other one beyond it. -/
structure Ends where
  near : Endpoint
  far : Endpoint
deriving DecidableEq

namespace Ends

/-- The ends of a packet on its way out, with the identifier in place of the near port of an
echo. -/
def leaving (protocol : TrackedProtocol) (packet : Ipv4Packet) : Ends :=
  match protocol with
  | .icmp => ⟨⟨packet.source, (IcmpMessage.mk packet.payload).identifier⟩, ⟨packet.destination, 0⟩⟩
  | _ => ⟨⟨packet.source, Transport.sourcePort packet.payload⟩,
      ⟨packet.destination, Transport.destinationPort packet.payload⟩⟩

/-- The ends of a packet on its way in, with the identifier in place of the near port of an
echo. -/
def arriving (protocol : TrackedProtocol) (packet : Ipv4Packet) : Ends :=
  match protocol with
  | .icmp => ⟨⟨packet.destination, (IcmpMessage.mk packet.payload).identifier⟩, ⟨packet.source, 0⟩⟩
  | _ => ⟨⟨packet.destination, Transport.destinationPort packet.payload⟩,
      ⟨packet.source, Transport.sourcePort packet.payload⟩⟩

/-- The ends of a leaving packet with ports. -/
theorem leaving_ports (protocol : PortProtocol) (packet : Ipv4Packet) :
    leaving protocol.tracked packet =
      ⟨⟨packet.source, Transport.sourcePort packet.payload⟩,
        ⟨packet.destination, Transport.destinationPort packet.payload⟩⟩ := by
  cases protocol <;> rfl

/-- The ends of an arriving packet with ports. -/
theorem arriving_ports (protocol : PortProtocol) (packet : Ipv4Packet) :
    arriving protocol.tracked packet =
      ⟨⟨packet.destination, Transport.destinationPort packet.payload⟩,
        ⟨packet.source, Transport.sourcePort packet.payload⟩⟩ := by
  cases protocol <;> rfl

section Rewritten

variable {packet : Ipv4Packet} (fits : packet.HeaderFits) (near : Endpoint)
include fits

/-- A segment from another port, in a packet from another source, has that near end. -/
theorem leaving_segment {protocol : PortProtocol}
    (room : protocol.checksumOffset + 2 ≤ packet.payload.length) (source destination) :
    leaving protocol.tracked ((packet.withPayload (protocol.refreshed
        (Transport.withSourcePort packet.payload near.port) source destination)).withSource
          near.address) =
      ⟨near, (leaving protocol.tracked packet).far⟩ := by
  have whole : 8 ≤ packet.payload.length :=
    Nat.le_trans (Nat.add_le_add_right protocol.ports_before_checksum 2) room
  have kept := Transport.withSourcePort_length near.port whole
  have fitting := fits.withPayload (protocol.refreshed
    (Transport.withSourcePort packet.payload near.port) source destination)
  rw [leaving_ports, leaving_ports, Ipv4Packet.withSource_source fitting,
    Ipv4Packet.withSource_destination fitting, Ipv4Packet.withSource_payload fitting,
    Ipv4Packet.withPayload_payload fits, Ipv4Packet.withPayload_destination fits,
    -- Only the near port was written; the checksum stands behind both.
    PortProtocol.sourcePort_refreshed (by rw [kept]; exact room),
    PortProtocol.destinationPort_refreshed (by rw [kept]; exact room),
    Transport.withSourcePort_sourcePort, Transport.withSourcePort_destinationPort]

/-- A segment to another port, in a packet to another destination, has that near end. -/
theorem arriving_segment {protocol : PortProtocol}
    (room : protocol.checksumOffset + 2 ≤ packet.payload.length) (source destination) :
    arriving protocol.tracked ((packet.withPayload (protocol.refreshed
        (Transport.withDestinationPort packet.payload near.port) source
          destination)).withDestination near.address) =
      ⟨near, (arriving protocol.tracked packet).far⟩ := by
  have whole : 8 ≤ packet.payload.length :=
    Nat.le_trans (Nat.add_le_add_right protocol.ports_before_checksum 2) room
  have kept := Transport.withDestinationPort_length near.port whole
  have fitting := fits.withPayload (protocol.refreshed
    (Transport.withDestinationPort packet.payload near.port) source destination)
  -- Only the near port was written; the checksum stands behind both.
  rw [arriving_ports, arriving_ports, Ipv4Packet.withDestination_destination fitting,
    Ipv4Packet.withDestination_source fitting, Ipv4Packet.withDestination_payload fitting,
    Ipv4Packet.withPayload_payload fits, Ipv4Packet.withPayload_source fits,
    PortProtocol.sourcePort_refreshed (by rw [kept]; exact room),
    PortProtocol.destinationPort_refreshed (by rw [kept]; exact room),
    Transport.withDestinationPort_destinationPort near.port whole,
    Transport.withDestinationPort_sourcePort near.port whole]

/-- An echo with another identifier, in a packet from another source, has that near end. -/
theorem leaving_echo (room : IcmpMessage.headerSize ≤ packet.payload.length) :
    leaving .icmp ((packet.withPayload
        (IcmpMessage.withIdentifier ⟨packet.payload⟩ near.port).bytes).withSource near.address) =
      ⟨near, (leaving .icmp packet).far⟩ := by
  have fitting := fits.withPayload (IcmpMessage.withIdentifier ⟨packet.payload⟩ near.port).bytes
  have identifier := IcmpMessage.withIdentifier_identifier ⟨packet.payload⟩ near.port room
  -- The far end of an echo is an address alone, which the packet keeps.
  simp only [leaving, Ipv4Packet.withSource_source fitting,
    Ipv4Packet.withSource_destination fitting, Ipv4Packet.withSource_payload fitting,
    Ipv4Packet.withPayload_payload fits, Ipv4Packet.withPayload_destination fits, identifier]

/-- An echo with another identifier, in a packet to another destination, has that near end. -/
theorem arriving_echo (room : IcmpMessage.headerSize ≤ packet.payload.length) :
    arriving .icmp ((packet.withPayload
        (IcmpMessage.withIdentifier ⟨packet.payload⟩ near.port).bytes).withDestination
          near.address) =
      ⟨near, (arriving .icmp packet).far⟩ := by
  have fitting := fits.withPayload (IcmpMessage.withIdentifier ⟨packet.payload⟩ near.port).bytes
  have identifier := IcmpMessage.withIdentifier_identifier ⟨packet.payload⟩ near.port room
  simp only [arriving, Ipv4Packet.withDestination_destination fitting,
    Ipv4Packet.withDestination_source fitting, Ipv4Packet.withDestination_payload fitting,
    Ipv4Packet.withPayload_payload fits, Ipv4Packet.withPayload_source fits, identifier]

end Rewritten

end Ends

end NetworkLayer
