import NetworkLayer.Policy
import NetworkLayer.Proofs.Lifetime
import NetworkLayer.Proofs.Translation.Rewriting

/-!
What passes a policy. Main statement: a packet that goes on is well formed, and it lasts as long as the
packet that was received.
-/

namespace NetworkLayer

/-- A fresh checksum leaves the length of a segment alone. -/
theorem PortProtocol.refreshed_length {protocol : PortProtocol} {segment : Bytes}
    (fits : protocol.checksumOffset + 2 ≤ segment.length) (source destination : Address .v4) :
    (protocol.refreshed segment source destination).length = segment.length := by
  -- A segment without a checksum is left as it is.
  cases protocol with
  | tcp => exact Transport.stamp_length fits
  | udp =>
    simp only [refreshed, UdpDatagram.refreshed]
    split
    · rfl
    · exact Transport.stamp_length fits

/-- Another identifier leaves the length and the type of a message alone. -/
theorem IcmpMessage.withIdentifier_same {message : IcmpMessage} (identifier : UInt16)
    (room : headerSize ≤ message.bytes.length) :
    (message.withIdentifier identifier).bytes.length = message.bytes.length ∧
      (message.withIdentifier identifier).bytes.head? = message.bytes.head? := by
  have room : 8 ≤ message.bytes.length := room
  have patched : (Bytes.patch message.bytes 4 (Bytes.ofWord identifier)).length =
      message.bytes.length := Bytes.patch_word_length (by omega) identifier
  have fits : checksumOffset + 2 ≤
      (Bytes.patch message.bytes 4 (Bytes.ofWord identifier)).length := by
    rw [patched]
    exact Nat.le_trans (by decide) room
  refine ⟨(Checksum.stamp_length fits).trans patched, ?_⟩
  rw [List.head?_eq_getElem?, List.head?_eq_getElem?]
  -- The type stands in front of both words that are written.
  exact Bytes.getElem?_of_slice ((Checksum.slice_stamp_of_apart fits (Or.inl (by decide))).trans
    (Bytes.slice_patch_of_apart _ (by omega) (Or.inl (by decide))))

/-- The number of a tracked protocol is the one that it was found under. -/
theorem TrackedProtocol.number_of_ofNumber? {number : UInt8} {protocol : TrackedProtocol}
    (found : ofNumber? number = some protocol) : protocol.number = number :=
  eq_of_beq (List.find?_some found :)

namespace Translator

variable (translator : Translator) (now : Nat) {packet out : Ipv4Packet}

/-- A packet as a translation may change it: the payload is rewritten in place, and one of the two
addresses is replaced. -/
structure Rewrites (packet out : Ipv4Packet) (payload : Bytes) : Prop where
  length : payload.length = packet.payload.length
  kind : packet.protocol = Protocol.icmp.number → payload.head? = packet.payload.head?
  result : (∃ source, out = (packet.withPayload payload).withSource source) ∨
    ∃ destination, out = (packet.withPayload payload).withDestination destination

/-- A rewritten packet lasts as long as the one that it was made from. -/
theorem Rewrites.alike {payload : Bytes} (rewrites : Rewrites packet out payload)
    (wellFormed : packet.WellFormed) : @Packet.Alike .v4 packet out := by
  -- First the payload is replaced, then one of the two addresses.
  have carried : @Packet.Alike .v4 packet (packet.withPayload payload) :=
    Packet.withPayload_alike wellFormed rewrites.length fun control =>
      rewrites.kind (eq_of_beq control)
  rcases rewrites.result with ⟨source, rfl⟩ | ⟨destination, rfl⟩
  · exact carried.trans (Packet.withSource_alike carried.wellFormed source)
  · exact carried.trans (@Packet.withDestination_alike .v4 _ carried.wellFormed destination)

section Ports

variable (protocol : PortProtocol) (number : packet.protocol = protocol.tracked.number)
include number

/-- A packet with ports does not carry a control message. -/
theorem ports_not_icmp : packet.protocol ≠ Protocol.icmp.number := by
  rw [number]
  cases protocol <;> decide

/-- A segment with a port replaced takes the place of the old one. -/
theorem ported_rewrites {segment patched : Bytes} {source destination : Address .v4}
    (read : protocol.segment? packet.payload = .ok segment)
    (same : 8 ≤ segment.length → patched.length = segment.length) :
    (protocol.refreshed patched source destination).length = packet.payload.length ∧
      (packet.protocol = Protocol.icmp.number →
        (protocol.refreshed patched source destination).head? = packet.payload.head?) := by
  obtain ⟨rfl, room⟩ := PortProtocol.segment?_eq_ok read
  -- The ports stand in front of the checksum, so a segment with the one has the others.
  have whole : 8 ≤ packet.payload.length :=
    Nat.le_trans (Nat.add_le_add_right protocol.ports_before_checksum 2) room
  have length := same whole
  refine ⟨?_, fun icmp => absurd icmp (ports_not_icmp protocol number)⟩
  rw [PortProtocol.refreshed_length (by rw [length]; exact room), length]

/-- A packet with ports that is translated on its way out is rewritten. -/
theorem outboundPorts_rewrites
    (translated : (translator.outboundPorts protocol now packet).1 = .translated out) :
    ∃ payload, Rewrites packet out payload := by
  obtain ⟨segment, port, read, rfl⟩ := outboundPorts_form translated
  obtain ⟨length, kind⟩ := ported_rewrites protocol number read
    (Transport.withSourcePort_length _)
  exact ⟨_, length, kind, Or.inl ⟨_, rfl⟩⟩

/-- A packet with ports that is translated on its way in is rewritten. -/
theorem inboundPorts_rewrites
    (translated : (translator.inboundPorts protocol now packet).1 = .translated out) :
    ∃ payload, Rewrites packet out payload := by
  obtain ⟨segment, address, port, read, rfl⟩ := inboundPorts_form translated
  obtain ⟨length, kind⟩ := ported_rewrites protocol number read
    (Transport.withDestinationPort_length _)
  exact ⟨_, length, kind, Or.inr ⟨_, rfl⟩⟩

end Ports

/-- An echo request that is translated on its way out is rewritten. -/
theorem outboundEcho_rewrites
    (translated : (translator.outboundEcho now packet).1 = .translated out) :
    ∃ payload, Rewrites packet out payload := by
  obtain ⟨message, identifier, read, rfl⟩ := outboundEcho_form translated
  obtain ⟨rfl, room⟩ := IcmpMessage.parse_eq_ok read
  obtain ⟨length, kind⟩ := IcmpMessage.withIdentifier_same _ room
  exact ⟨_, length, fun _ => kind, Or.inl ⟨_, rfl⟩⟩

/-- An echo that is translated on its way in is rewritten. -/
theorem inboundEcho_rewrites
    (translated : (translator.inboundEcho now packet).1 = .translated out) :
    ∃ payload, Rewrites packet out payload := by
  obtain ⟨message, identifier, address, read, rfl⟩ := inboundEcho_form translated
  obtain ⟨rfl, room⟩ := IcmpMessage.parse_eq_ok read
  obtain ⟨length, kind⟩ := IcmpMessage.withIdentifier_same _ room
  exact ⟨_, length, fun _ => kind, Or.inr ⟨_, rfl⟩⟩

/-- A packet that is translated on its way out is rewritten. -/
theorem outbound_rewrites (translated : (translator.outbound now packet).1 = .translated out) :
    ∃ payload, Rewrites packet out payload := by
  rw [outbound] at translated
  -- The protocol decides which of the three translations is made.
  split at translated
  · rename_i known
    exact outboundPorts_rewrites translator now .udp
      (TrackedProtocol.number_of_ofNumber? known).symm translated
  · rename_i known
    exact outboundPorts_rewrites translator now .tcp
      (TrackedProtocol.number_of_ofNumber? known).symm translated
  · exact outboundEcho_rewrites translator now translated
  · cases translated

/-- A packet that is translated on its way in is rewritten. -/
theorem inbound_rewrites (translated : (translator.inbound now packet).1 = .translated out) :
    ∃ payload, Rewrites packet out payload := by
  rw [inbound] at translated
  -- The protocol decides which of the three translations is made.
  split at translated
  · rename_i known
    exact inboundPorts_rewrites translator now .udp
      (TrackedProtocol.number_of_ofNumber? known).symm translated
  · rename_i known
    exact inboundPorts_rewrites translator now .tcp
      (TrackedProtocol.number_of_ofNumber? known).symm translated
  · exact inboundEcho_rewrites translator now translated
  · cases translated

/-- What is passed on of a translation is the translated packet. -/
theorem settle_some {counter : Counter} {result : Translation × Translator}
    (passed : (receive.settle counter result).1 = some out) : result.1 = .translated out := by
  rcases result with ⟨translation, after⟩
  cases translation <;> cases passed
  rfl

/-- A packet that passes a translator lasts as long as the one that was received. -/
theorem receive_alike {owns : Address .v4 → Bool} {ingress : InterfaceId}
    (wellFormed : packet.WellFormed)
    (passed : (translator.receive now owns ingress packet).1 = some out) :
    @Packet.Alike .v4 packet out := by
  -- Outside of the two translations a packet passes as it is.
  have same (kept : some packet = some out) : @Packet.Alike .v4 packet out := by
    obtain rfl := Option.some.inj kept
    exact .refl wellFormed
  rw [receive] at passed
  split at passed
  · split at passed
    · exact same passed
    · obtain ⟨payload, rewrites⟩ := outbound_rewrites translator now (settle_some passed)
      exact rewrites.alike wellFormed
  · split at passed
    · split at passed
      · obtain ⟨payload, rewrites⟩ := inbound_rewrites translator now (settle_some passed)
        exact rewrites.alike wellFormed
      · exact same passed
    · exact same passed

end Translator

namespace Policy

variable {family : Family} (policy : Policy family) {packet out : Packet family}

/-- A packet that passes a policy lasts as long as the one that was received. -/
theorem receive_alike {now : Nat} {owns : Address family → Bool} {ingress : InterfaceId}
    (wellFormed : packet.WellFormed)
    (passed : (policy.receive now owns ingress packet).1 = some out) :
    packet.Alike out := by
  -- Only a translator changes the packet, and rules let it pass or keep it.
  cases policy with
  | plain =>
    obtain rfl := Option.some.inj passed
    exact .refl wellFormed
  | ruled rules =>
    simp only [receive] at passed
    split at passed
    · cases passed
    · obtain rfl := Option.some.inj passed
      exact .refl wellFormed
  | translating translator => exact translator.receive_alike now wellFormed passed

/-- A packet that a policy lets through when it leaves lasts as long as before. -/
theorem forward?_alike (wellFormed : packet.WellFormed) (sent : policy.forward? packet = some out) :
    packet.Alike out := by
  -- Only rules with a redirection change the packet, and only its destination.
  cases policy with
  | plain =>
    obtain rfl := Option.some.inj sent
    exact .refl wellFormed
  | translating translator =>
    obtain rfl := Option.some.inj sent
    exact .refl wellFormed
  | ruled rules =>
    simp only [forward?] at sent
    split at sent
    · obtain rfl := Option.some.inj sent
      cases rules.redirect with
      | none => exact .refl wellFormed
      | some destination => exact Packet.withDestination_alike wellFormed destination
    · cases sent

end Policy

end NetworkLayer
