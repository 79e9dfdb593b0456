import NetworkLayer.Proofs.Alteration
import NetworkLayer.Proofs.Translation.Datagram
import NetworkLayer.Proofs.Translation.Tracking

/-!
What a translation leaves of a packet. Main statement: a translated packet differs from the one that was received
in one address, one port or identifier and the checksums alone, the checksums hold, and it reads back.
-/

namespace NetworkLayer

/-- Where the checksum of what a packet carries stands. -/
def TrackedProtocol.checksumOffset : TrackedProtocol → Nat
  | icmp => IcmpMessage.checksumOffset
  | tcp => TcpSegment.checksumOffset
  | udp => UdpDatagram.checksumOffset

namespace Ends

/-- Where the near port or the identifier of a leaving packet stands. -/
def leavingPort : TrackedProtocol → Nat
  | .icmp => 4
  | _ => 0

/-- Where the near port or the identifier of an arriving packet stands. -/
def arrivingPort : TrackedProtocol → Nat
  | .icmp => 4
  | _ => 2

end Ends

namespace PortProtocol

variable {protocol : PortProtocol} {segment : Bytes}

/-- A segment whose checksum is as it should for its addresses; a datagram without one stays without. -/
def Checks (protocol : PortProtocol) (source destination : Address .v4) (before after : Bytes) :
    Prop :=
  match protocol with
  | tcp => Transport.checksum source destination Protocol.tcp.number after = 0
  | udp =>
    if (UdpDatagram.mk before).checksumField = 0 then (UdpDatagram.mk after).checksumField = 0
    else (UdpDatagram.mk after).checksumField ≠ 0 ∧
      Transport.checksum source destination Protocol.udp.number after = 0

/-- A fresh checksum changes nothing but its own word. -/
theorem refreshed_sameBut (fits : protocol.checksumOffset + 2 ≤ segment.length)
    (source destination : Address .v4) :
    Bytes.SameBut [(protocol.checksumOffset, 2)] (protocol.refreshed segment source destination)
      segment := by
  cases protocol with
  | tcp => exact Transport.stamp_sameBut fits
  | udp =>
    simp only [refreshed, UdpDatagram.refreshed]
    -- A datagram without a checksum is left alone.
    split
    · exact .refl _ _
    · exact Transport.stamp_sameBut fits

/-- A fresh checksum is as it should. -/
theorem refreshed_checks (fits : protocol.checksumOffset + 2 ≤ segment.length)
    (short : segment.length ≤ 65535) (source destination : Address .v4) :
    protocol.Checks source destination segment (protocol.refreshed segment source destination) := by
  -- The checksum of TCP may be zero. That of UDP is replaced if it is, and a segment without one keeps none.
  cases protocol with
  | tcp => exact Transport.checksum_stamp fits (by decide) short fun _ => rfl
  | udp =>
    have fits : UdpDatagram.checksumOffset + 2 ≤ segment.length := fits
    simp only [Checks, refreshed, UdpDatagram.refreshed]
    split
    · assumption
    · refine ⟨?_, Transport.checksum_stamp fits (by decide) short UdpDatagram.nonzero_mod⟩
      rw [UdpDatagram.checksumField, Transport.wordAt_stamp fits]
      exact UdpDatagram.nonzero_ne_zero _

/-- A port in front of the checksum makes no difference to whether a datagram has one. -/
theorem Checks.of_patched {source destination : Address .v4} {before after : Bytes} {offset : Nat}
    {port : UInt16} (within : offset + 2 ≤ before.length) (front : offset + 2 ≤ 6)
    (checks : protocol.Checks source destination (Bytes.patch before offset (Bytes.ofWord port))
      after) : protocol.Checks source destination before after := by
  -- Only a datagram may be without a checksum, and its field lies behind the port.
  cases protocol with
  | tcp => exact checks
  | udp =>
    have same : (UdpDatagram.mk (Bytes.patch before offset (Bytes.ofWord port))).checksumField =
        (UdpDatagram.mk before).checksumField :=
      Bytes.wordAt_patch_of_apart _ (by omega) (Or.inr (by rw [Bytes.ofWord_length]; exact front))
    simpa only [Checks, same] using checks

end PortProtocol

namespace Translator

/-- Whether the checksum of what a packet carries is as it should after a translation. -/
def Checks (protocol : TrackedProtocol) (packet out : Ipv4Packet) : Prop :=
  match protocol with
  | .icmp => (IcmpMessage.mk out.payload).verifies = true
  | .tcp => PortProtocol.tcp.Checks out.source out.destination packet.payload out.payload
  | .udp => PortProtocol.udp.Checks out.source out.destination packet.payload out.payload

/-- A packet that is the same but for one address, one port or identifier, and its checksums, which hold. -/
structure Faithful (protocol : TrackedProtocol) (address port : Nat) (packet out : Ipv4Packet) :
    Prop where
  headerLength : out.headerLength = packet.headerLength
  same : Bytes.SameBut [(10, 2), (address, 4), (packet.headerLength + port, 2),
    (packet.headerLength + protocol.checksumOffset, 2)] out.bytes packet.bytes
  headerVerifies : out.headerVerifies = true
  checks : Checks protocol packet out
  reads : Ipv4Packet.parse out.bytes = .ok out

section Rewritten

variable {packet : Ipv4Packet} (wellFormed : packet.WellFormed)
include wellFormed

/-- A packet with its payload rewritten in place and another address is faithful if the payload is. -/
theorem faithful_of_payload {protocol : TrackedProtocol} {payload : Bytes} {address port : Nat}
    (value : Address .v4) (behind : 12 ≤ address) (fixed : address + 4 ≤ Ipv4Packet.leastHeader)
    (same : Bytes.SameBut [(port, 2), (protocol.checksumOffset, 2)] payload packet.payload)
    (checks : Checks protocol packet
      ((packet.withPayload payload).withField address value.octets)) :
    Faithful protocol address port packet
      ((packet.withPayload payload).withField address value.octets) := by
  have carried := wellFormed.withPayload_of_length same.length
  have within := Ipv4Packet.address_within carried.fits value address fixed
  have inHeader := Ipv4Packet.withField_sameBut carried.fits within
  rw [Address.octets_length] at inHeader
  refine ⟨rfl, ?_, carried.withField_verifies within, checks,
    (carried.withField (by omega) within).parse⟩
  -- The header checksum is written twice, and each of the other fields once.
  refine (inHeader.trans (Ipv4Packet.withPayload_sameBut wellFormed same)).mono ?_
  intro field member
  simp only [List.map_cons, List.map_nil, List.cons_append, List.nil_append, List.mem_cons,
    List.not_mem_nil, or_false] at member ⊢
  rcases member with rfl | rfl | rfl | rfl | rfl
  · exact Or.inl rfl
  · exact Or.inr (Or.inl rfl)
  · exact Or.inl rfl
  · exact Or.inr (Or.inr (Or.inl rfl))
  · exact Or.inr (Or.inr (Or.inr rfl))

/-- A packet with another port and another address is faithful if its segment was refreshed for its addresses. -/
theorem ported_faithful (protocol : PortProtocol) {segment : Bytes}
    (read : protocol.segment? packet.payload = .ok segment) {address offset : Nat}
    (value source destination : Address .v4) (port : UInt16) (behind : 12 ≤ address)
    (fixed : address + 4 ≤ Ipv4Packet.leastHeader) (front : offset + 2 ≤ 6) :
    let out := (packet.withPayload (protocol.refreshed
      (Bytes.patch segment offset (Bytes.ofWord port)) source destination)).withField address
        value.octets
    out.source = source → out.destination = destination →
      Faithful protocol.tracked address offset packet out := by
  intro out leaves goes
  obtain ⟨rfl, room⟩ := PortProtocol.segment?_eq_ok read
  -- The ports stand in front of the checksum, so a segment with the one has the others.
  have earlier := protocol.ports_before_checksum
  have inside : offset + 2 ≤ packet.payload.length := by omega
  have patched : (Bytes.patch packet.payload offset (Bytes.ofWord port)).length =
      packet.payload.length := Bytes.patch_word_length inside port
  have checksumAt : protocol.tracked.checksumOffset = protocol.checksumOffset := by
    cases protocol <;> rfl
  -- The port is written first, and then the checksum over it.
  have same := (PortProtocol.refreshed_sameBut (patched ▸ room) source destination).trans
    (Bytes.patch_word_sameBut inside port)
  have carried := wellFormed.fits.withPayload (protocol.refreshed
    (Bytes.patch packet.payload offset (Bytes.ofWord port)) source destination)
  have payload : out.payload = protocol.refreshed
      (Bytes.patch packet.payload offset (Bytes.ofWord port)) source destination :=
    (Ipv4Packet.withField_payload carried (Ipv4Packet.address_within carried value address fixed)).trans
      (Ipv4Packet.withPayload_payload wellFormed.fits _)
  have refreshed := (PortProtocol.refreshed_checks (patched ▸ room)
    (patched ▸ Nat.le_trans (wellFormed.payload_short) (by decide)) source destination).of_patched
      inside front
  refine faithful_of_payload wellFormed value behind fixed ?_ ?_
  · rw [checksumAt]
    exact same.mono (by simp)
  · rw [← payload, ← leaves, ← goes] at refreshed
    cases protocol with
    | tcp => exact refreshed
    | udp => exact refreshed

/-- A packet with another identifier and another address is faithful. -/
theorem echo_faithful {message : IcmpMessage}
    (read : IcmpMessage.parse packet.payload = .ok message) {address : Nat}
    (value : Address .v4) (identifier : UInt16) (behind : 12 ≤ address)
    (fixed : address + 4 ≤ Ipv4Packet.leastHeader) :
    Faithful .icmp address 4 packet
      ((packet.withPayload (message.withIdentifier identifier).bytes).withField address
        value.octets) := by
  -- The message has room for its header, so the identifier and the checksum lie within.
  obtain ⟨rfl, room⟩ := IcmpMessage.parse_eq_ok read
  have room : 8 ≤ packet.payload.length := room
  have patched : (Bytes.patch packet.payload 4 (Bytes.ofWord identifier)).length =
      packet.payload.length := Bytes.patch_word_length (by omega) identifier
  have fits : IcmpMessage.checksumOffset + 2 ≤
      (Bytes.patch packet.payload 4 (Bytes.ofWord identifier)).length :=
    patched ▸ Nat.le_trans (by decide) room
  -- Only these two fields change in the message, and its length stays.
  have same := (Checksum.stamp_sameBut fits).trans
    (Bytes.patch_word_sameBut (show 4 + 2 ≤ packet.payload.length by omega) identifier)
  have carried := wellFormed.fits.withPayload
    (IcmpMessage.withIdentifier ⟨packet.payload⟩ identifier).bytes
  refine faithful_of_payload wellFormed value behind fixed
    (same.mono (by simp [TrackedProtocol.checksumOffset])) ?_
  -- The fresh checksum is over the message that the packet carries now.
  have short := wellFormed.payload_short
  rw [Checks, Ipv4Packet.withField_payload carried
    (Ipv4Packet.address_within carried value address fixed),
    Ipv4Packet.withPayload_payload wellFormed.fits]
  exact Checksum.verifies_stamp fits (by decide) (by rw [patched]; omega)

variable {translator : Translator} {now : Nat} {out : Ipv4Packet}

/-- A packet with ports that is translated on its way out stays faithful. -/
theorem outboundPorts_faithful (protocol : PortProtocol)
    (translated : (translator.outboundPorts protocol now packet).1 = .translated out) :
    Faithful protocol.tracked 12 0 packet out := by
  obtain ⟨segment, port, read, rfl⟩ := outboundPorts_form translated
  refine ported_faithful wellFormed protocol read _ _ _ _ (by decide) (by decide) (by decide) ?_ ?_
  · exact Ipv4Packet.withSource_source (wellFormed.fits.withPayload _) _
  · exact (Ipv4Packet.withSource_destination (wellFormed.fits.withPayload _) _).trans
      (Ipv4Packet.withPayload_destination wellFormed.fits _)

/-- A packet with ports that is translated on its way in stays faithful. -/
theorem inboundPorts_faithful (protocol : PortProtocol)
    (translated : (translator.inboundPorts protocol now packet).1 = .translated out) :
    Faithful protocol.tracked 16 2 packet out := by
  obtain ⟨segment, address, port, read, rfl⟩ := inboundPorts_form translated
  refine ported_faithful wellFormed protocol read _ _ _ _ (by decide) (by decide) (by decide) ?_ ?_
  · exact (Ipv4Packet.withDestination_source (wellFormed.fits.withPayload _) _).trans
      (Ipv4Packet.withPayload_source wellFormed.fits _)
  · exact Ipv4Packet.withDestination_destination (wellFormed.fits.withPayload _) _

/-- An echo request that is translated on its way out stays faithful. -/
theorem outboundEcho_faithful
    (translated : (translator.outboundEcho now packet).1 = .translated out) :
    Faithful .icmp 12 4 packet out := by
  obtain ⟨message, identifier, read, rfl⟩ := outboundEcho_form translated
  exact echo_faithful wellFormed read _ _ (by decide) (by decide)

/-- An echo that is translated on its way in stays faithful. -/
theorem inboundEcho_faithful
    (translated : (translator.inboundEcho now packet).1 = .translated out) :
    Faithful .icmp 16 4 packet out := by
  obtain ⟨message, identifier, address, read, rfl⟩ := inboundEcho_form translated
  exact echo_faithful wellFormed read _ _ (by decide) (by decide)

/-- A packet that is translated on its way out stays faithful. -/
theorem outbound_faithful {protocol : TrackedProtocol} {echo : IcmpType}
    (carried : packet.carries protocol echo)
    (translated : (translator.outbound now packet).1 = .translated out) :
    Faithful protocol 12 (Ends.leavingPort protocol) packet out := by
  -- The protocols with ports share one lemma, and the echo has its own.
  cases protocol with
  | tcp =>
    obtain ⟨number, -⟩ := segment?_of_carries .tcp carried
    rw [outbound_eq_outboundPorts .tcp number] at translated
    exact outboundPorts_faithful wellFormed .tcp translated
  | udp =>
    obtain ⟨number, -⟩ := segment?_of_carries .udp carried
    rw [outbound_eq_outboundPorts .udp number] at translated
    exact outboundPorts_faithful wellFormed .udp translated
  | icmp =>
    obtain ⟨number, -⟩ := message_of_carries carried
    simp only [outbound, number] at translated
    exact outboundEcho_faithful wellFormed translated

/-- A packet that is translated on its way in stays faithful. -/
theorem inbound_faithful {protocol : TrackedProtocol} {echo : IcmpType}
    (carried : packet.carries protocol echo)
    (translated : (translator.inbound now packet).1 = .translated out) :
    Faithful protocol 16 (Ends.arrivingPort protocol) packet out := by
  -- The protocols with ports share one lemma, and the echo has its own.
  cases protocol with
  | tcp =>
    obtain ⟨number, -⟩ := segment?_of_carries .tcp carried
    rw [inbound_eq_inboundPorts .tcp number] at translated
    exact inboundPorts_faithful wellFormed .tcp translated
  | udp =>
    obtain ⟨number, -⟩ := segment?_of_carries .udp carried
    rw [inbound_eq_inboundPorts .udp number] at translated
    exact inboundPorts_faithful wellFormed .udp translated
  | icmp =>
    obtain ⟨number, -⟩ := message_of_carries carried
    simp only [inbound, number] at translated
    exact inboundEcho_faithful wellFormed translated

end Rewritten

/-- A packet that has left through a flow, which is tracked from now on, and stayed faithful. -/
structure LeavesThrough (external : Endpoint) (protocol : TrackedProtocol)
    (before after : Translator) (now : Nat) (packet out : Ipv4Packet) : Prop where
  carried : packet.carries protocol .echoRequest = true
  tracked : (after.table protocol).Tracks now (Ends.leaving protocol packet).near external
    (Ends.leaving protocol packet).far
  ends : Ends.leaving protocol out =
    ⟨⟨before.externalAddress, external.port⟩, (Ends.leaving protocol packet).far⟩
  faithful : Faithful protocol 12 (Ends.leavingPort protocol) packet out

/-- A packet that has arrived through a flow, which is tracked from now on, and stayed faithful. -/
structure ArrivesThrough (internal : Endpoint) (protocol : TrackedProtocol) (after : Translator)
    (now : Nat) (packet out : Ipv4Packet) : Prop where
  carried : packet.carries protocol .echoReply = true
  tracked : (after.table protocol).Tracks now internal (Ends.arriving protocol packet).near
    (Ends.arriving protocol packet).far
  ends : Ends.arriving protocol out = ⟨internal, (Ends.arriving protocol packet).far⟩
  faithful : Faithful protocol 16 (Ends.arrivingPort protocol) packet out

variable {packet out : Ipv4Packet}

/-- A well-formed packet that is translated on its way out leaves through a flow. -/
theorem outbound_leaves (translator : Translator) (now : Nat) (wellFormed : packet.WellFormed)
    (translated : (translator.outbound now packet).1 = .translated out) :
    ∃ protocol external, LeavesThrough external protocol translator
      (translator.outbound now packet).2 now packet out := by
  -- A refusal is no translation, so the packet was carried and its flow was found.
  rcases translator.outbound_carried_or_refused now packet with
    ⟨protocol, carried⟩ | ⟨refusal, refused, result⟩
  · obtain ⟨flow, found, after, ends⟩ := outbound_translated carried translated
    refine ⟨protocol, flow.external, carried, ?_, ends wellFormed.fits,
      outbound_faithful wellFormed carried translated⟩
    rw [after]
    exact flowOut_tracks found
  · rw [result] at translated
    subst translated
    exact refused.elim

/-- A well-formed packet that is translated on its way in arrives through a flow. -/
theorem inbound_arrives (translator : Translator) (now : Nat) (wellFormed : packet.WellFormed)
    (translated : (translator.inbound now packet).1 = .translated out) :
    ∃ protocol internal, ArrivesThrough internal protocol (translator.inbound now packet).2 now
      packet out := by
  -- A refusal is no translation, so the packet was carried and its flow was found.
  rcases translator.inbound_carried_or_refused now packet with
    ⟨protocol, carried⟩ | ⟨refusal, refused, result⟩
  · obtain ⟨flow, found, after, ends⟩ := inbound_translated carried translated
    refine ⟨protocol, flow.internal, carried, ?_, ends wellFormed.fits,
      inbound_faithful wellFormed carried translated⟩
    rw [after]
    exact flowIn_tracks found
  · rw [result] at translated
    subst translated
    exact refused.elim

/--
A translation rewrites only what it must, whatever the state of the translator is.

A packet that is translated has the external address and port or identifier of a tracked flow in place of its
source, or the internal ones in place of its destination; apart from that only checksums differ, and they hold.
-/
theorem translation_faithful (translator : Translator) (now : Nat) {data : Bytes}
    {packet : Ipv4Packet} (read : Ipv4Packet.parse data = .ok packet) :
    (∀ out, (translator.outbound now packet).1 = .translated out →
      ∃ protocol external, LeavesThrough external protocol translator
        (translator.outbound now packet).2 now packet out) ∧
    ∀ out, (translator.inbound now packet).1 = .translated out →
      ∃ protocol internal, ArrivesThrough internal protocol (translator.inbound now packet).2 now
        packet out := by
  have wellFormed := (Ipv4Packet.parse_cases read).1
  exact ⟨fun _ => outbound_leaves translator now wellFormed,
    fun _ => inbound_arrives translator now wellFormed⟩

/-- The first datagram of a host is translated, and it stays faithful. -/
theorem first_datagram_faithful :
    ∃ translator, create lan wan {} 0 = .ok translator ∧
      Ipv4Packet.parse (Ipv4Packet.datagram host server).bytes = .ok (.datagram host server) ∧
      let result := translator.outbound 0 (.datagram host server)
      ∃ out protocol external, result.1 = .translated out ∧
        LeavesThrough external protocol translator result.2 0 (.datagram host server) out := by
  have created : create lan wan {} 0 = .ok _ := rfl
  have wellFormed : (Ipv4Packet.datagram host server).WellFormed := by
    refine Ipv4Draft.toPacket_wellFormed _ ?_
    rw [UdpDatagram.encode_length]
    decide
  refine ⟨_, created, wellFormed.parse, ?_⟩
  intro result
  -- The pool of a new translator is not empty.
  have taken : result.1 ≠ .portsExhausted := by decide +kernel
  rcases outbound_of_carries _ 0 (Ipv4Packet.datagram_carries host server .echoRequest) with
    ⟨-, failed⟩ | ⟨flow, out, -, sent, -⟩
  · exact absurd (congrArg Prod.fst failed) taken
  · have translated := congrArg Prod.fst sent
    obtain ⟨protocol, external, leaves⟩ :=
      (translation_faithful _ 0 wellFormed.parse).1 out translated
    exact ⟨out, protocol, external, translated, leaves⟩

end Translator

end NetworkLayer
