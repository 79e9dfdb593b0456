import NetworkLayer.Proofs.ControlMessage
import NetworkLayer.Proofs.Translation.Ends

/-!
A translation is a look-up of the flow between the ends of a packet, and a rewriting of the packet's
near end. Main statements: which packets are translated, and the ends that they have afterwards.
-/

namespace NetworkLayer

/-- Whether a packet is a well-formed one of a tracked protocol: a segment with ports, or an ICMP
message of the given type. -/
def Ipv4Packet.carries (packet : Ipv4Packet) (protocol : TrackedProtocol) (echo : IcmpType) :
    Bool :=
  decide (TrackedProtocol.ofNumber? packet.protocol = some protocol) &&
    match protocol with
    | .icmp => match IcmpMessage.parse packet.payload with
      | .ok message => message.kind == echo.code
      | .error _ => false
    | .tcp => (PortProtocol.tcp.segment? packet.payload).toBool
    | .udp => (PortProtocol.udp.segment? packet.payload).toBool

/-- Whether a packet was refused without a look-up: malformed, or nothing that is translated. -/
def Translation.IsRefusal : Translation → Prop
  | .unsupported => True
  | .malformed _ => True
  | _ => False

namespace Translator

variable (translator : Translator) (now : Nat)

/-- The flow through which a packet leaves, and the translator after it was looked up. -/
def flowOut (protocol : TrackedProtocol) (ends : Ends) : Option Flow × Translator :=
  match protocol with
  | .icmp =>
    let (flow, state) :=
      translator.icmp.outbound translator.externalAddress now ends.near ends.far
    (flow, { translator with icmp := state })
  | .tcp => ofPorts .tcp
  | .udp => ofPorts .udp
where
  /-- The flow of a protocol with ports. -/
  ofPorts (protocol : PortProtocol) : Option Flow × Translator :=
    let (flow, state) := (translator.ports protocol).outbound translator.reclaimPorts
      translator.externalAddress now ends.near ends.far
    (flow, translator.withPorts protocol state)

/-- The flow through which a packet arrives, and the translator after it was looked up. -/
def flowIn (protocol : TrackedProtocol) (ends : Ends) : Option Flow × Translator :=
  match protocol with
  | .icmp =>
    let (flow, state) := translator.icmp.inbound now ends.far ends.near
    (flow, { translator with icmp := state })
  | .tcp => ofPorts .tcp
  | .udp => ofPorts .udp
where
  /-- The flow of a protocol with ports. -/
  ofPorts (protocol : PortProtocol) : Option Flow × Translator :=
    let (flow, state) :=
      (translator.ports protocol).inbound translator.reclaimPorts now ends.far ends.near
    (flow, translator.withPorts protocol state)

variable {translator now} {packet : Ipv4Packet}

/-- What a packet with ports becomes on its way out. -/
theorem outboundPorts_cases (protocol : PortProtocol) {segment : Bytes}
    (read : protocol.segment? packet.payload = .ok segment) :
    let found := flowOut.ofPorts translator now (Ends.leaving protocol.tracked packet) protocol
    (found.1 = none ∧
      translator.outboundPorts protocol now packet = (.portsExhausted, found.2)) ∨
    ∃ flow out, found.1 = some flow ∧
      translator.outboundPorts protocol now packet = (.translated out, found.2) ∧
      (packet.HeaderFits → Ends.leaving protocol.tracked out =
        ⟨⟨translator.externalAddress, flow.external.port⟩,
          (Ends.leaving protocol.tracked packet).far⟩) := by
  obtain ⟨rfl, room⟩ := PortProtocol.segment?_eq_ok read
  rw [Ends.leaving_ports]
  simp only [outboundPorts, read, flowOut.ofPorts]
  -- The rewriting depends on the look-up only through the flow.
  rcases (translator.ports protocol).outbound translator.reclaimPorts translator.externalAddress
    now ⟨packet.source, Transport.sourcePort packet.payload⟩
    ⟨packet.destination, Transport.destinationPort packet.payload⟩ with ⟨flow, state⟩
  cases flow with
  | none => exact Or.inl ⟨rfl, rfl⟩
  | some flow =>
    refine Or.inr ⟨flow, _, rfl, rfl, fun fits => ?_⟩
    rw [Ends.leaving_segment fits ⟨translator.externalAddress, flow.external.port⟩ room,
      Ends.leaving_ports]

/-- What a packet with ports becomes on its way in. -/
theorem inboundPorts_cases (protocol : PortProtocol) {segment : Bytes}
    (read : protocol.segment? packet.payload = .ok segment) :
    let found := flowIn.ofPorts translator now (Ends.arriving protocol.tracked packet) protocol
    (found.1 = none ∧ translator.inboundPorts protocol now packet = (.noMapping, found.2)) ∨
    ∃ flow out, found.1 = some flow ∧
      translator.inboundPorts protocol now packet = (.translated out, found.2) ∧
      (packet.HeaderFits → Ends.arriving protocol.tracked out =
        ⟨flow.internal, (Ends.arriving protocol.tracked packet).far⟩) := by
  obtain ⟨rfl, room⟩ := PortProtocol.segment?_eq_ok read
  rw [Ends.arriving_ports]
  simp only [inboundPorts, read, flowIn.ofPorts]
  -- The rewriting depends on the look-up only through the flow.
  rcases (translator.ports protocol).inbound translator.reclaimPorts now
    ⟨packet.source, Transport.sourcePort packet.payload⟩
    ⟨packet.destination, Transport.destinationPort packet.payload⟩ with ⟨flow, state⟩
  cases flow with
  | none => exact Or.inl ⟨rfl, rfl⟩
  | some flow =>
    refine Or.inr ⟨flow, _, rfl, rfl, fun fits => ?_⟩
    rw [Ends.arriving_segment fits flow.internal room, Ends.arriving_ports]

/-- What an echo request becomes on its way out. -/
theorem outboundEcho_cases {message : IcmpMessage}
    (read : IcmpMessage.parse packet.payload = .ok message)
    (request : message.kind = IcmpType.echoRequest.code) :
    let found := translator.flowOut now .icmp (Ends.leaving .icmp packet)
    (found.1 = none ∧ translator.outboundEcho now packet = (.portsExhausted, found.2)) ∨
    ∃ flow out, found.1 = some flow ∧
      translator.outboundEcho now packet = (.translated out, found.2) ∧
      (packet.HeaderFits → Ends.leaving .icmp out =
        ⟨⟨translator.externalAddress, flow.external.port⟩, (Ends.leaving .icmp packet).far⟩) := by
  obtain ⟨rfl, room⟩ := IcmpMessage.parse_eq_ok read
  -- Only a request is translated on its way out, and this one is.
  have asks : IcmpMessage.isEchoRequest ⟨packet.payload⟩ = true := by
    simp [IcmpMessage.isEchoRequest, request]
  simp only [outboundEcho, read, asks, flowOut, Ends.leaving, Bool.not_true, Bool.false_eq_true,
    if_false]
  rcases translator.icmp.outbound translator.externalAddress now
    ⟨packet.source, IcmpMessage.identifier ⟨packet.payload⟩⟩ ⟨packet.destination, 0⟩ with
    ⟨flow, state⟩
  cases flow with
  | none => exact Or.inl ⟨rfl, rfl⟩
  | some flow =>
    refine Or.inr ⟨flow, _, rfl, rfl, fun fits => ?_⟩
    exact Ends.leaving_echo fits ⟨translator.externalAddress, flow.external.port⟩ room

/-- What an echo becomes on its way in. -/
theorem inboundEcho_cases {message : IcmpMessage}
    (read : IcmpMessage.parse packet.payload = .ok message)
    (reply : message.kind = IcmpType.echoReply.code) :
    let found := translator.flowIn now .icmp (Ends.arriving .icmp packet)
    (found.1 = none ∧ translator.inboundEcho now packet = (.noMapping, found.2)) ∨
    ∃ flow out, found.1 = some flow ∧
      translator.inboundEcho now packet = (.translated out, found.2) ∧
      (packet.HeaderFits → Ends.arriving .icmp out =
        ⟨flow.internal, (Ends.arriving .icmp packet).far⟩) := by
  obtain ⟨rfl, room⟩ := IcmpMessage.parse_eq_ok read
  -- Only a reply is translated on its way in, and this one is.
  have answers : IcmpMessage.isEchoReply ⟨packet.payload⟩ = true := by
    simp [IcmpMessage.isEchoReply, reply]
  simp only [inboundEcho, read, answers, flowIn, Ends.arriving, Bool.not_true,
    Bool.false_eq_true, if_false]
  rcases translator.icmp.inbound now ⟨packet.source, 0⟩
    ⟨packet.destination, IcmpMessage.identifier ⟨packet.payload⟩⟩ with ⟨flow, state⟩
  cases flow with
  | none => exact Or.inl ⟨rfl, rfl⟩
  | some flow =>
    refine Or.inr ⟨flow, _, rfl, rfl, fun fits => ?_⟩
    exact Ends.arriving_echo fits flow.internal room

/-- A packet of a protocol with ports carries a segment that can be read. -/
theorem carries_ports (protocol : PortProtocol) (echo : IcmpType) :
    packet.carries protocol.tracked echo =
      (decide (TrackedProtocol.ofNumber? packet.protocol = some protocol.tracked) &&
        (protocol.segment? packet.payload).toBool) := by
  cases protocol <;> rfl

/-- A segment of a protocol with ports is read in a packet that carries it. -/
theorem segment?_of_carries (protocol : PortProtocol) {echo : IcmpType}
    (carried : packet.carries protocol.tracked echo) :
    TrackedProtocol.ofNumber? packet.protocol = some protocol.tracked ∧
      ∃ segment, protocol.segment? packet.payload = .ok segment := by
  simp only [carries_ports, Bool.and_eq_true, decide_eq_true_eq] at carried
  refine ⟨carried.1, ?_⟩
  -- What cannot be read is not carried.
  cases read : protocol.segment? packet.payload with
  | error cause => simp [read, Except.toBool] at carried
  | ok segment => exact ⟨segment, rfl⟩

/-- An echo message is read in a packet that carries it. -/
theorem message_of_carries {echo : IcmpType} (carried : packet.carries .icmp echo) :
    TrackedProtocol.ofNumber? packet.protocol = some .icmp ∧
      ∃ message, IcmpMessage.parse packet.payload = .ok message ∧ message.kind = echo.code := by
  simp only [Ipv4Packet.carries, Bool.and_eq_true, decide_eq_true_eq] at carried
  refine ⟨carried.1, ?_⟩
  -- Nothing is carried that cannot be read, and no message of another type.
  cases read : IcmpMessage.parse packet.payload with
  | error cause => simp [read] at carried
  | ok message => exact ⟨message, rfl, by simpa [read] using carried.2⟩

/-- A packet of a protocol with ports is well formed, or its segment cannot be read. -/
theorem carries_or_malformed (protocol : PortProtocol) (echo : IcmpType)
    (number : TrackedProtocol.ofNumber? packet.protocol = some protocol.tracked) :
    packet.carries protocol.tracked echo ∨
      ∃ cause, protocol.segment? packet.payload = .error cause := by
  -- The number is right, so only the segment can be wrong.
  cases read : protocol.segment? packet.payload with
  | error cause => exact Or.inr ⟨cause, rfl⟩
  | ok segment => exact Or.inl (by simp [carries_ports, number, read, Except.toBool])

/-- A packet of ICMP carries an echo of a given type, another message, or none at all. -/
theorem carries_or_other (echo : IcmpType)
    (number : TrackedProtocol.ofNumber? packet.protocol = some .icmp) :
    packet.carries .icmp echo ∨
    (∃ cause, IcmpMessage.parse packet.payload = .error cause) ∨
    ∃ message, IcmpMessage.parse packet.payload = .ok message ∧ message.kind ≠ echo.code := by
  -- A message that can be read has the given type or another one.
  cases read : IcmpMessage.parse packet.payload with
  | error cause => exact Or.inr (Or.inl ⟨cause, rfl⟩)
  | ok message =>
    by_cases same : message.kind = echo.code
    · exact Or.inl (by simp [Ipv4Packet.carries, number, read, same])
    · exact Or.inr (Or.inr ⟨message, rfl, same⟩)

/-- The packets of a protocol with ports go its way out. -/
theorem outbound_eq_outboundPorts (protocol : PortProtocol)
    (number : TrackedProtocol.ofNumber? packet.protocol = some protocol.tracked) :
    translator.outbound now packet = translator.outboundPorts protocol now packet := by
  cases protocol <;> simp [outbound, number, PortProtocol.tracked]

/-- The packets of a protocol with ports go its way in. -/
theorem inbound_eq_inboundPorts (protocol : PortProtocol)
    (number : TrackedProtocol.ofNumber? packet.protocol = some protocol.tracked) :
    translator.inbound now packet = translator.inboundPorts protocol now packet := by
  cases protocol <;> simp [inbound, number, PortProtocol.tracked]

variable (translator now)

/-- A packet that is translated on its way out leaves through its flow, if there is one. -/
theorem outbound_of_carries {protocol : TrackedProtocol}
    (carried : packet.carries protocol .echoRequest) :
    let found := translator.flowOut now protocol (Ends.leaving protocol packet)
    (found.1 = none ∧ translator.outbound now packet = (.portsExhausted, found.2)) ∨
    ∃ flow out, found.1 = some flow ∧
      translator.outbound now packet = (.translated out, found.2) ∧
      (packet.HeaderFits → Ends.leaving protocol out =
        ⟨⟨translator.externalAddress, flow.external.port⟩,
          (Ends.leaving protocol packet).far⟩) := by
  -- The number of the packet leads to the translation of its protocol.
  cases protocol with
  | icmp =>
    obtain ⟨number, message, read, request⟩ := message_of_carries carried
    simpa only [outbound, number] using outboundEcho_cases read request
  | tcp =>
    obtain ⟨number, segment, read⟩ := segment?_of_carries .tcp carried
    rw [outbound_eq_outboundPorts .tcp number]
    exact outboundPorts_cases .tcp read
  | udp =>
    obtain ⟨number, segment, read⟩ := segment?_of_carries .udp carried
    rw [outbound_eq_outboundPorts .udp number]
    exact outboundPorts_cases .udp read

/-- A packet that is translated on its way in arrives through its flow, if there is one. -/
theorem inbound_of_carries {protocol : TrackedProtocol}
    (carried : packet.carries protocol .echoReply) :
    let found := translator.flowIn now protocol (Ends.arriving protocol packet)
    (found.1 = none ∧ translator.inbound now packet = (.noMapping, found.2)) ∨
    ∃ flow out, found.1 = some flow ∧
      translator.inbound now packet = (.translated out, found.2) ∧
      (packet.HeaderFits → Ends.arriving protocol out =
        ⟨flow.internal, (Ends.arriving protocol packet).far⟩) := by
  -- The number of the packet leads to the translation of its protocol.
  cases protocol with
  | icmp =>
    obtain ⟨number, message, read, reply⟩ := message_of_carries carried
    simpa only [inbound, number] using inboundEcho_cases read reply
  | tcp =>
    obtain ⟨number, segment, read⟩ := segment?_of_carries .tcp carried
    rw [inbound_eq_inboundPorts .tcp number]
    exact inboundPorts_cases .tcp read
  | udp =>
    obtain ⟨number, segment, read⟩ := segment?_of_carries .udp carried
    rw [inbound_eq_inboundPorts .udp number]
    exact inboundPorts_cases .udp read

variable {translator now}

section Flows

variable {protocol : TrackedProtocol} {flow : Flow} {out : Ipv4Packet}

/-- A packet that was translated on its way out has left through a flow. -/
theorem outbound_translated (carried : packet.carries protocol .echoRequest)
    (translated : (translator.outbound now packet).1 = .translated out) :
    let found := translator.flowOut now protocol (Ends.leaving protocol packet)
    ∃ flow, found.1 = some flow ∧ (translator.outbound now packet).2 = found.2 ∧
      (packet.HeaderFits → Ends.leaving protocol out =
        ⟨⟨translator.externalAddress, flow.external.port⟩,
          (Ends.leaving protocol packet).far⟩) := by
  -- A packet without a flow is dropped, not translated.
  rcases outbound_of_carries translator now carried with
    ⟨-, result⟩ | ⟨flow, sent, found, result, ends⟩
  · rw [result] at translated
    cases translated
  · rw [result] at translated
    cases translated
    exact ⟨flow, found, by rw [result], ends⟩

/-- A packet that was translated on its way in has arrived through a flow. -/
theorem inbound_translated (carried : packet.carries protocol .echoReply)
    (translated : (translator.inbound now packet).1 = .translated out) :
    let found := translator.flowIn now protocol (Ends.arriving protocol packet)
    ∃ flow, found.1 = some flow ∧ (translator.inbound now packet).2 = found.2 ∧
      (packet.HeaderFits → Ends.arriving protocol out =
        ⟨flow.internal, (Ends.arriving protocol packet).far⟩) := by
  -- A packet without a flow is dropped, not translated.
  rcases inbound_of_carries translator now carried with
    ⟨-, result⟩ | ⟨flow, back, found, result, ends⟩
  · rw [result] at translated
    cases translated
  · rw [result] at translated
    cases translated
    exact ⟨flow, found, by rw [result], ends⟩

/-- A packet is translated on its way in if there is a flow for it. -/
theorem inbound_of_flow (carried : packet.carries protocol .echoReply)
    (found : (translator.flowIn now protocol (Ends.arriving protocol packet)).1 = some flow) :
    ∃ back, (translator.inbound now packet).1 = .translated back ∧
      (packet.HeaderFits → Ends.arriving protocol back =
        ⟨flow.internal, (Ends.arriving protocol packet).far⟩) := by
  -- There is a flow, and it is the one that was found.
  rcases inbound_of_carries translator now carried with
    ⟨missed, -⟩ | ⟨same, back, first, result, ends⟩
  · cases missed.symm.trans found
  · cases first.symm.trans found
    exact ⟨back, by rw [result], ends⟩

end Flows

section Form

variable {protocol : PortProtocol} {out : Ipv4Packet}

/-- A packet with ports that is translated on its way out has another source in packet and segment. -/
theorem outboundPorts_form
    (translated : (translator.outboundPorts protocol now packet).1 = .translated out) :
    ∃ segment port, protocol.segment? packet.payload = .ok segment ∧
      out = (packet.withPayload (protocol.refreshed (Transport.withSourcePort segment port)
        translator.externalAddress packet.destination)).withSource translator.externalAddress := by
  -- The segment can be read and a flow is found, since the packet is translated.
  rw [outboundPorts] at translated
  split at translated
  · cases translated
  · rename_i segment read
    simp only at translated
    split at translated
    · cases translated
    · cases translated
      exact ⟨segment, _, read, rfl⟩

/-- A packet with ports that is translated on its way in has another destination in packet and segment. -/
theorem inboundPorts_form
    (translated : (translator.inboundPorts protocol now packet).1 = .translated out) :
    ∃ segment address port, protocol.segment? packet.payload = .ok segment ∧
      out = (packet.withPayload (protocol.refreshed (Transport.withDestinationPort segment port)
        packet.source address)).withDestination address := by
  -- The segment can be read and a flow is found, since the packet is translated.
  rw [inboundPorts] at translated
  split at translated
  · cases translated
  · rename_i segment read
    simp only at translated
    split at translated
    · cases translated
    · cases translated
      exact ⟨segment, _, _, read, rfl⟩

/-- An echo request that is translated on its way out has another identifier and another source. -/
theorem outboundEcho_form
    (translated : (translator.outboundEcho now packet).1 = .translated out) :
    ∃ message identifier, IcmpMessage.parse packet.payload = .ok message ∧
      out = (packet.withPayload (message.withIdentifier identifier).bytes).withSource
        translator.externalAddress := by
  -- The message is a request, and a flow is found for it.
  rw [outboundEcho] at translated
  split at translated
  · cases translated
  · rename_i message read
    split at translated
    · cases translated
    · simp only at translated
      split at translated
      · cases translated
      · cases translated
        exact ⟨message, _, read, rfl⟩

/-- An echo that is translated on its way in has another identifier and another destination. -/
theorem inboundEcho_form
    (translated : (translator.inboundEcho now packet).1 = .translated out) :
    ∃ message identifier address, IcmpMessage.parse packet.payload = .ok message ∧
      out = (packet.withPayload (message.withIdentifier identifier).bytes).withDestination
        address := by
  -- The message is a reply, and a flow is found for it.
  rw [inboundEcho] at translated
  split at translated
  · cases translated
  · rename_i message read
    split at translated
    · cases translated
    · simp only at translated
      split at translated
      · cases translated
      · cases translated
        exact ⟨message, _, _, read, rfl⟩

end Form

variable (translator now)

/-- A packet is translated on its way out, or it is refused and changes nothing. -/
theorem outbound_carried_or_refused (packet : Ipv4Packet) :
    (∃ protocol, packet.carries protocol .echoRequest) ∨
      ∃ refusal, refusal.IsRefusal ∧ translator.outbound now packet = (refusal, translator) := by
  have ported (protocol : PortProtocol)
      (number : TrackedProtocol.ofNumber? packet.protocol = some protocol.tracked) :
      (∃ protocol, packet.carries protocol .echoRequest) ∨
        ∃ refusal, refusal.IsRefusal ∧ translator.outbound now packet = (refusal, translator) := by
    rcases carries_or_malformed protocol .echoRequest number with carried | ⟨cause, read⟩
    · exact Or.inl ⟨_, carried⟩
    · refine Or.inr ⟨.malformed cause, trivial, ?_⟩
      simp [outbound_eq_outboundPorts protocol number, outboundPorts, read]
  -- A protocol that is not known is not supported, and each of the others can be read or not.
  cases number : TrackedProtocol.ofNumber? packet.protocol with
  | none => exact Or.inr ⟨.unsupported, trivial, by simp [outbound, number]⟩
  | some protocol =>
    cases protocol with
    | tcp => exact ported .tcp number
    | udp => exact ported .udp number
    | icmp =>
      -- Of the messages that can be read, only a request for an echo is translated.
      rcases carries_or_other .echoRequest number with
        carried | ⟨cause, read⟩ | ⟨message, read, other⟩
      · exact Or.inl ⟨_, carried⟩
      · exact Or.inr ⟨.malformed cause, trivial, by simp [outbound, number, outboundEcho, read]⟩
      · refine Or.inr ⟨.unsupported, trivial, ?_⟩
        simp [outbound, number, outboundEcho, read, IcmpMessage.isEchoRequest, other]

/-- A packet is translated on its way in, or it is refused and changes nothing. -/
theorem inbound_carried_or_refused (packet : Ipv4Packet) :
    (∃ protocol, packet.carries protocol .echoReply) ∨
      ∃ refusal, refusal.IsRefusal ∧ translator.inbound now packet = (refusal, translator) := by
  have ported (protocol : PortProtocol)
      (number : TrackedProtocol.ofNumber? packet.protocol = some protocol.tracked) :
      (∃ protocol, packet.carries protocol .echoReply) ∨
        ∃ refusal, refusal.IsRefusal ∧ translator.inbound now packet = (refusal, translator) := by
    rcases carries_or_malformed protocol .echoReply number with carried | ⟨cause, read⟩
    · exact Or.inl ⟨_, carried⟩
    · refine Or.inr ⟨.malformed cause, trivial, ?_⟩
      simp [inbound_eq_inboundPorts protocol number, inboundPorts, read]
  -- A protocol that is not known is not supported, and each of the others can be read or not.
  cases number : TrackedProtocol.ofNumber? packet.protocol with
  | none => exact Or.inr ⟨.unsupported, trivial, by simp [inbound, number]⟩
  | some protocol =>
    cases protocol with
    | tcp => exact ported .tcp number
    | udp => exact ported .udp number
    | icmp =>
      -- Of the messages that can be read, only an echo is translated.
      rcases carries_or_other .echoReply number with
        carried | ⟨cause, read⟩ | ⟨message, read, other⟩
      · exact Or.inl ⟨_, carried⟩
      · exact Or.inr ⟨.malformed cause, trivial, by simp [inbound, number, inboundEcho, read]⟩
      · refine Or.inr ⟨.unsupported, trivial, ?_⟩
        simp [inbound, number, inboundEcho, read, IcmpMessage.isEchoReply, other]

/-- A packet on its way out changes the translator by the look-up of its flow, or not at all. -/
theorem outbound_state (packet : Ipv4Packet) :
    (translator.outbound now packet).2 = translator ∨
      ∃ protocol ends, (translator.outbound now packet).2 =
        (translator.flowOut now protocol ends).2 := by
  rcases translator.outbound_carried_or_refused now packet with
    ⟨protocol, carried⟩ | ⟨refusal, -, result⟩
  · -- With or without a flow, the translator is the one after the look-up.
    refine Or.inr ⟨protocol, Ends.leaving protocol packet, ?_⟩
    rcases outbound_of_carries translator now carried with ⟨-, result⟩ | ⟨flow, out, -, result, -⟩
    · rw [result]
    · rw [result]
  · exact Or.inl (by rw [result])

/-- A packet on its way in changes the translator by the look-up of its flow, or not at all. -/
theorem inbound_state (packet : Ipv4Packet) :
    (translator.inbound now packet).2 = translator ∨
      ∃ protocol ends, (translator.inbound now packet).2 =
        (translator.flowIn now protocol ends).2 := by
  rcases translator.inbound_carried_or_refused now packet with
    ⟨protocol, carried⟩ | ⟨refusal, -, result⟩
  · -- With or without a flow, the translator is the one after the look-up.
    refine Or.inr ⟨protocol, Ends.arriving protocol packet, ?_⟩
    rcases inbound_of_carries translator now carried with ⟨-, result⟩ | ⟨flow, out, -, result, -⟩
    · rw [result]
    · rw [result]
  · exact Or.inl (by rw [result])

end Translator

end NetworkLayer
