import NetworkLayer.Proofs.Translation.Datagram

/-!
Echo messages between given hosts, and what a translator makes of them.
-/

namespace NetworkLayer

namespace IcmpMessage

variable (kind : IcmpType) (identifier : UInt16)

/-- A message of eight bytes before its checksum is written: a type, an identifier and zeros. -/
def fields : Bytes :=
  [kind.code, 0, 0, 0] ++ Bytes.ofWord identifier ++ [0, 0]

/-- An echo message without data. -/
def echo : Bytes :=
  Checksum.stamp (fields kind identifier) checksumOffset

/-- The checksum lies within the fields. -/
theorem checksum_within : checksumOffset + 2 ≤ (fields kind identifier).length := by
  simp only [fields, checksumOffset, List.length_append, Bytes.ofWord_length, List.length_cons,
    List.length_nil]
  decide

/-- An echo message without data is a header. -/
theorem echo_length : (echo kind identifier).length = headerSize := by
  refine (Checksum.stamp_length (checksum_within kind identifier)).trans ?_
  simp only [fields, List.length_append, Bytes.ofWord_length, List.length_cons, List.length_nil]
  rfl

/-- The type of an echo message reads back. -/
theorem echo_kind : (mk (echo kind identifier)).kind = kind.code :=
  -- The type stands in front of the checksum.
  Bytes.byteAt_of_slice
    (Checksum.slice_stamp_of_apart (checksum_within kind identifier) (Or.inl (by decide)))

/-- The identifier of an echo message reads back. -/
theorem echo_identifier : (mk (echo kind identifier)).identifier = identifier := by
  have read : Bytes.slice (echo kind identifier) 4 2 =
      Bytes.slice (fields kind identifier) 4 2 :=
    Checksum.slice_stamp_of_apart (checksum_within kind identifier) (Or.inr (by decide))
  rw [IcmpMessage.identifier, Bytes.wordAt, read]
  exact Bytes.wordAt_between identifier [0, 0] (show [kind.code, 0, 0, 0].length = 4 from rfl)

end IcmpMessage

/-- A packet with an echo message that carries no data. -/
def Ipv4Packet.echo (kind : IcmpType) (source destination : Address .v4) (identifier : UInt16) :
    Ipv4Packet :=
  Ipv4Draft.toPacket {
    protocol := Protocol.icmp.number
    source
    destination
    payload := IcmpMessage.echo kind identifier }

namespace Ipv4Packet

variable (kind : IcmpType) (source destination : Address .v4) (identifier : UInt16)

/-- The packet of an echo message is one of ICMP. -/
theorem echo_carries : (echo kind source destination identifier).carries .icmp kind := by
  -- The draft keeps protocol and payload, and the message has room for its header.
  have number : (echo kind source destination identifier).protocol = Protocol.icmp.number :=
    Ipv4Draft.toPacket_protocol _
  have known : TrackedProtocol.ofNumber? Protocol.icmp.number = some .icmp := by decide
  have payload : (echo kind source destination identifier).payload =
      IcmpMessage.echo kind identifier := Ipv4Draft.toPacket_payload _
  have room : ¬ (IcmpMessage.echo kind identifier).length < IcmpMessage.headerSize := by
    rw [IcmpMessage.echo_length]
    exact Nat.lt_irrefl _
  simp [carries, number, known, payload, IcmpMessage.parse, room, IcmpMessage.echo_kind]

/-- The ends of an echo message on its way out are its hosts, the near one with the identifier. -/
theorem leaving_echo : Ends.leaving .icmp (echo kind source destination identifier) =
    ⟨⟨source, identifier⟩, ⟨destination, 0⟩⟩ := by
  simp only [Ends.leaving, echo, Ipv4Draft.toPacket_source, Ipv4Draft.toPacket_destination,
    Ipv4Draft.toPacket_payload, IcmpMessage.echo_identifier]

/-- The ends of an echo message on its way in are its hosts, the other way round. -/
theorem arriving_echo : Ends.arriving .icmp (echo kind source destination identifier) =
    ⟨⟨destination, identifier⟩, ⟨source, 0⟩⟩ := by
  simp only [Ends.arriving, echo, Ipv4Draft.toPacket_source, Ipv4Draft.toPacket_destination,
    Ipv4Draft.toPacket_payload, IcmpMessage.echo_identifier]

end Ipv4Packet

namespace Translator.Session

variable (session : Session) (host server : Address .v4) (identifier : UInt16)

/-- An echo request on its way out is a look-up of the flow of its identifier. -/
theorem step_echo :
    session.step (.outbound (.echo .echoRequest host server identifier)) = { session with
      translator := { session.translator with
        icmp := (session.translator.icmp.outbound session.translator.externalAddress session.now
          ⟨host, identifier⟩ ⟨server, 0⟩).2 } } := by
  have looked := outbound_of_carries session.translator session.now
    (Ipv4Packet.echo_carries .echoRequest host server identifier)
  rw [Ipv4Packet.leaving_echo] at looked
  -- Whether there is a flow or not, the translator is the one after the look-up.
  rcases looked with ⟨-, result⟩ | ⟨flow, out, -, result, -⟩
  · simp only [step, result]
    rfl
  · simp only [step, result]
    rfl

/-- An echo on its way in is a look-up of the flow that its identifier belongs to. -/
theorem step_arriving_echo (external : Address .v4) :
    session.step (.inbound (.echo .echoReply server external identifier)) = { session with
      translator := { session.translator with
        icmp := (session.translator.icmp.inbound session.now ⟨server, 0⟩
          ⟨external, identifier⟩).2 } } := by
  -- Whether the flow is found or not, the state afterwards is that of the look-up.
  have looked := inbound_of_carries session.translator session.now
    (Ipv4Packet.echo_carries .echoReply server external identifier)
  rw [Ipv4Packet.arriving_echo] at looked
  rcases looked with ⟨-, result⟩ | ⟨flow, out, -, result, -⟩
  · simp only [step, result]
    rfl
  · simp only [step, result]
    rfl

end Translator.Session

end NetworkLayer
