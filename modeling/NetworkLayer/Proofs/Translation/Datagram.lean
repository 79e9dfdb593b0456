import NetworkLayer.Proofs.Translation.Session

/-!
Datagrams between given sockets, what a translator makes of them, and a small set-up to try it on.
-/

namespace NetworkLayer

/-- A packet with a UDP datagram that carries no data. -/
def Ipv4Packet.datagram (source destination : Endpoint) : Ipv4Packet :=
  Ipv4Draft.toPacket {
    protocol := Protocol.udp.number
    source := source.address
    destination := destination.address
    payload := UdpDatagram.encode source.port destination.port [] source.address
      destination.address }

namespace Ipv4Packet

variable (source destination : Endpoint)

/-- The header of a datagram's packet fits. -/
theorem datagram_headerFits : (datagram source destination).HeaderFits :=
  Ipv4Draft.toPacket_headerFits _

/-- The packet of a datagram is one of UDP. -/
theorem datagram_carries (echo : IcmpType) : (datagram source destination).carries .udp echo := by
  have number : (datagram source destination).protocol = Protocol.udp.number :=
    Ipv4Draft.toPacket_protocol _
  have known : TrackedProtocol.ofNumber? Protocol.udp.number = some .udp := by decide
  have room : ¬ (datagram source destination).payload.length < UdpDatagram.headerSize := by
    rw [datagram, Ipv4Draft.toPacket_payload, UdpDatagram.encode_length]
    exact Nat.not_lt.mpr (Nat.le_add_right _ _)
  -- The protocol is known and the segment has a header, which is all that is asked.
  simp [carries, number, known, PortProtocol.segment?, UdpDatagram.parse, room, Except.map,
    Except.toBool]

/-- The ends of a datagram on its way out are its sockets. -/
theorem leaving_datagram :
    Ends.leaving .udp (datagram source destination) = ⟨source, destination⟩ := by
  -- All four fields read back from where the builder put them.
  simp only [Ends.leaving, datagram, Ipv4Draft.toPacket_source, Ipv4Draft.toPacket_destination,
    Ipv4Draft.toPacket_payload, UdpDatagram.encode_sourcePort, UdpDatagram.encode_destinationPort]

/-- The ends of a datagram on its way in are its sockets, the other way round. -/
theorem arriving_datagram :
    Ends.arriving .udp (datagram source destination) = ⟨destination, source⟩ := by
  simp only [Ends.arriving, datagram, Ipv4Draft.toPacket_source, Ipv4Draft.toPacket_destination,
    Ipv4Draft.toPacket_payload, UdpDatagram.encode_sourcePort, UdpDatagram.encode_destinationPort]

end Ipv4Packet

namespace Translator.Session

variable (session : Session) (internal remote : Endpoint)

/-- A datagram on its way out is a look-up of the flow between its sockets. -/
theorem step_datagram :
    session.step (.outbound (.datagram internal remote)) = { session with
      translator := session.translator.withPorts .udp
        ((session.translator.ports .udp).outbound session.translator.reclaimPorts
          session.translator.externalAddress session.now internal remote).2 } := by
  have looked := outbound_of_carries session.translator session.now
    (Ipv4Packet.datagram_carries internal remote .echoRequest)
  rw [Ipv4Packet.leaving_datagram] at looked
  -- Whether there is a flow or not, the translator is the one after the look-up.
  rcases looked with ⟨-, result⟩ | ⟨flow, out, -, result, -⟩
  · simp only [step, result]
    rfl
  · simp only [step, result]
    rfl

/-- A datagram on its way in is a look-up of the flow that its remote socket reaches. -/
theorem step_arriving_datagram (external : Endpoint) :
    session.step (.inbound (.datagram remote external)) = { session with
      translator := session.translator.withPorts .udp
        ((session.translator.ports .udp).inbound session.translator.reclaimPorts session.now
          remote external).2 } := by
  have looked := inbound_of_carries session.translator session.now
    (Ipv4Packet.datagram_carries remote external .echoReply)
  rw [Ipv4Packet.arriving_datagram] at looked
  -- The translator is the one after the look-up here, too.
  rcases looked with ⟨-, result⟩ | ⟨flow, out, -, result, -⟩
  · simp only [step, result]
    rfl
  · simp only [step, result]
    rfl

end Translator.Session

namespace Translator

/-- An internal side without addresses. -/
def lan : Side := ⟨0, "lan", []⟩

/-- An external side with the address `1.2.3.4`. -/
def wan : Side := ⟨1, "wan", [.unicast (.ofNat 0x01020304) 24]⟩

/-- Settings with the one external port 6200. -/
def onePort : TranslatorConfig := { firstPort := 6200, lastPort := 6200 }

/-- A socket of an internal host, `10.0.0.5:5000`. -/
def host : Endpoint := ⟨.ofNat 0x0A000005, 5000⟩

/-- A socket of a remote server, `8.8.8.8:53`. -/
def server : Endpoint := ⟨.ofNat 0x08080808, 53⟩

end Translator

end NetworkLayer
