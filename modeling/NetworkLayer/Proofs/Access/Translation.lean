import NetworkLayer.Policy
import NetworkLayer.Proofs.Access.Packet
import NetworkLayer.Proofs.Access.Routing
import NetworkLayer.Proofs.Translation.Rewriting

/-!
Policies and translators at work on a packet, with every access checked. A well-formed packet is
translated, passed on or dropped without a wrong access, whatever its segment or message is like.
-/

namespace NetworkLayer

namespace PortProtocol

variable (protocol : PortProtocol)

/-- The segment that a packet carries, if its header is well formed. -/
def checkedSegment? (payload : Bytes) : Checked (Except Error Bytes) :=
  match protocol with
  | tcp => do return (← TcpSegment.checkedParse payload).map (·.bytes)
  | udp => .ok ((UdpDatagram.parse payload).map (·.bytes))

/-- A segment with its checksum brought up to date. -/
def checkedRefreshed (segment : Bytes) (source destination : Address .v4) : Checked Bytes :=
  match protocol with
  | tcp => do return (← TcpSegment.checkedRefreshed ⟨segment⟩ source destination).bytes
  | udp => do return (← UdpDatagram.checkedRefreshed ⟨segment⟩ source destination).bytes

/-- A segment can be looked for in every payload. -/
theorem checkedSegment?_eq (payload : Bytes) :
    protocol.checkedSegment? payload = .ok (protocol.segment? payload) := by
  cases protocol with
  | tcp =>
    simp only [checkedSegment?, TcpSegment.checkedParse_eq, Checked.ok_bind]
    rfl
  | udp => rfl

/-- A segment that is read has room for its ports and its checksum, also after an edit in place. -/
theorem segment?_room {protocol : PortProtocol} {payload segment : Bytes}
    (read : protocol.segment? payload = .ok segment) :
    segment = payload ∧ 8 ≤ payload.length ∧ ∀ {edited : Bytes},
      edited.length = payload.length → protocol.checksumOffset + 2 ≤ edited.length := by
  obtain ⟨rfl, room⟩ := segment?_eq_ok read
  refine ⟨rfl, Nat.le_trans (Nat.add_le_add_right protocol.ports_before_checksum 2) room, ?_⟩
  intro edited same
  rw [same]
  exact room

/-- The checksum of a segment that has room for it can be renewed. -/
theorem checkedRefreshed_eq {segment : Bytes} (room : protocol.checksumOffset + 2 ≤ segment.length)
    (source destination : Address .v4) : protocol.checkedRefreshed segment source destination =
      .ok (protocol.refreshed segment source destination) := by
  cases protocol with
  | tcp =>
    rw [checkedRefreshed, @TcpSegment.checkedRefreshed_eq ⟨segment⟩ room]
    rfl
  | udp =>
    rw [checkedRefreshed, @UdpDatagram.checkedRefreshed_eq ⟨segment⟩ room]
    rfl

end PortProtocol

namespace Translator

variable (translator : Translator) (now : Nat)

/-- Whether an address is internal for a node whose addresses `owns` tells. -/
def checkedIsInternal (owns : Address .v4 → Checked Bool) (address : Address .v4) :
    Checked Bool := do
  if ← owns address then return true
  else translator.internalNets.anyM (·.checkedContains address)

/-- Translates a packet with ports that was received on the internal interface. -/
def checkedOutboundPorts (protocol : PortProtocol) (packet : Ipv4Packet) :
    Checked (Translation × Translator) := do
  match ← protocol.checkedSegment? (← packet.checkedPayload) with
  | .error cause => return (.malformed cause, translator)
  | .ok segment =>
    let internal : Endpoint := ⟨← packet.checkedSource, ← Transport.checkedSourcePort segment⟩
    let remote : Endpoint :=
      ⟨← packet.checkedDestination, ← Transport.checkedDestinationPort segment⟩
    let (flow, state) := (translator.ports protocol).outbound translator.reclaimPorts
      translator.externalAddress now internal remote
    let after := translator.withPorts protocol state
    match flow with
    | none => return (.portsExhausted, after)
    | some flow =>
      let ported ← Transport.checkedWithSourcePort segment flow.external.port
      let segment ← protocol.checkedRefreshed ported translator.externalAddress remote.address
      let carried ← packet.checkedWithPayload segment
      return (.translated (← carried.checkedWithSource translator.externalAddress), after)

/-- Translates a packet with ports that was received on the external interface. -/
def checkedInboundPorts (protocol : PortProtocol) (packet : Ipv4Packet) :
    Checked (Translation × Translator) := do
  match ← protocol.checkedSegment? (← packet.checkedPayload) with
  | .error cause => return (.malformed cause, translator)
  | .ok segment =>
    let remote : Endpoint := ⟨← packet.checkedSource, ← Transport.checkedSourcePort segment⟩
    let external : Endpoint :=
      ⟨← packet.checkedDestination, ← Transport.checkedDestinationPort segment⟩
    let (flow, state) :=
      (translator.ports protocol).inbound translator.reclaimPorts now remote external
    let after := translator.withPorts protocol state
    match flow with
    | none => return (.noMapping, after)
    | some flow =>
      let ported ← Transport.checkedWithDestinationPort segment flow.internal.port
      let segment ← protocol.checkedRefreshed ported remote.address flow.internal.address
      let carried ← packet.checkedWithPayload segment
      return (.translated (← carried.checkedWithDestination flow.internal.address), after)

/-- Translates an echo request that was received on the internal interface. -/
def checkedOutboundEcho (packet : Ipv4Packet) : Checked (Translation × Translator) := do
  match IcmpMessage.parse (← packet.checkedPayload) with
  | .error cause => return (.malformed cause, translator)
  | .ok message =>
    if !(← message.checkedIsEchoRequest) then return (.unsupported, translator)
    else
      let internal : Endpoint := ⟨← packet.checkedSource, ← message.checkedIdentifier⟩
      let remote : Endpoint := ⟨← packet.checkedDestination, 0⟩
      let (flow, state) :=
        translator.icmp.outbound translator.externalAddress now internal remote
      let after := { translator with icmp := state }
      match flow with
      | none => return (.portsExhausted, after)
      | some flow =>
        let message ← message.checkedWithIdentifier flow.external.port
        let carried ← packet.checkedWithPayload message.bytes
        return (.translated (← carried.checkedWithSource translator.externalAddress), after)

/-- Translates an echo reply that was received on the external interface. -/
def checkedInboundEcho (packet : Ipv4Packet) : Checked (Translation × Translator) := do
  match IcmpMessage.parse (← packet.checkedPayload) with
  | .error cause => return (.malformed cause, translator)
  | .ok message =>
    if !(← message.checkedIsEchoReply) then return (.unsupported, translator)
    else
      let remote : Endpoint := ⟨← packet.checkedSource, 0⟩
      let external : Endpoint := ⟨← packet.checkedDestination, ← message.checkedIdentifier⟩
      let (flow, state) := translator.icmp.inbound now remote external
      let after := { translator with icmp := state }
      match flow with
      | none => return (.noMapping, after)
      | some flow =>
        let message ← message.checkedWithIdentifier flow.internal.port
        let carried ← packet.checkedWithPayload message.bytes
        return (.translated (← carried.checkedWithDestination flow.internal.address), after)

/-- Translates a packet that was received on the internal interface. -/
def checkedOutbound (packet : Ipv4Packet) : Checked (Translation × Translator) := do
  match TrackedProtocol.ofNumber? (← packet.checkedProtocol) with
  | some .udp => translator.checkedOutboundPorts now .udp packet
  | some .tcp => translator.checkedOutboundPorts now .tcp packet
  | some .icmp => translator.checkedOutboundEcho now packet
  | none => return (.unsupported, translator)

/-- Translates a packet that was received on the external interface. -/
def checkedInbound (packet : Ipv4Packet) : Checked (Translation × Translator) := do
  match TrackedProtocol.ofNumber? (← packet.checkedProtocol) with
  | some .udp => translator.checkedInboundPorts now .udp packet
  | some .tcp => translator.checkedInboundPorts now .tcp packet
  | some .icmp => translator.checkedInboundEcho now packet
  | none => return (.unsupported, translator)

/-- Takes a packet in on an interface of a node whose addresses `owns` tells. -/
def checkedReceive (owns : Address .v4 → Checked Bool) (ingress : InterfaceId)
    (packet : Ipv4Packet) : Checked (Option Ipv4Packet × Translator × List Tally) := do
  let concerned ← translator.checkedIsInternal owns (← packet.checkedDestination)
  if ingress = translator.internal then
    if concerned then return (some packet, translator, [])
    else return receive.settle .translatedOut (← translator.checkedOutbound now packet)
  else if ingress = translator.external then
    if concerned then
      return receive.settle .translatedIn (← translator.checkedInbound now packet)
    else return (some packet, translator, [])
  else return (some packet, translator, [])

section Fits

variable {packet : Ipv4Packet} (fits : packet.HeaderFits)
include fits

/-- A packet with ports can be translated on its way out. -/
theorem checkedOutboundPorts_eq (protocol : PortProtocol) :
    translator.checkedOutboundPorts now protocol packet =
      .ok (translator.outboundPorts protocol now packet) := by
  rw [checkedOutboundPorts, Ipv4Packet.checkedPayload_eq fits, Checked.ok_bind,
    protocol.checkedSegment?_eq, Checked.ok_bind, outboundPorts]
  cases read : protocol.segment? packet.payload with
  | error cause => rfl
  | ok segment =>
    obtain ⟨rfl, room, edited⟩ := PortProtocol.segment?_room read
    -- Whatever flow the state answers with, its port takes the place of the old one.
    have ported (port : UInt16) := edited (Transport.withSourcePort_length port room)
    simp only [Ipv4Packet.checkedSource_eq fits, Ipv4Packet.checkedDestination_eq fits,
      Transport.checkedSourcePort_eq (Nat.le_trans (by decide) room),
      Transport.checkedDestinationPort_eq (Nat.le_trans (by decide) room), Checked.ok_bind]
    rcases (translator.ports protocol).outbound translator.reclaimPorts translator.externalAddress
      now ⟨packet.source, Transport.sourcePort packet.payload⟩
      ⟨packet.destination, Transport.destinationPort packet.payload⟩ with ⟨_ | flow, state⟩
    · rfl
    · simp only [Transport.checkedWithSourcePort_eq (Nat.le_trans (by decide) room),
        protocol.checkedRefreshed_eq (ported _), Ipv4Packet.checkedWithPayload_eq fits,
        Ipv4Packet.checkedWithSource_eq (fits.withPayload _), Checked.ok_bind]
      rfl

/-- A packet with ports can be translated on its way in. -/
theorem checkedInboundPorts_eq (protocol : PortProtocol) :
    translator.checkedInboundPorts now protocol packet =
      .ok (translator.inboundPorts protocol now packet) := by
  rw [checkedInboundPorts, Ipv4Packet.checkedPayload_eq fits, Checked.ok_bind,
    protocol.checkedSegment?_eq, Checked.ok_bind, inboundPorts]
  cases read : protocol.segment? packet.payload with
  | error cause => rfl
  | ok segment =>
    obtain ⟨rfl, room, edited⟩ := PortProtocol.segment?_room read
    -- Whatever flow the state answers with, its port takes the place of the old one.
    have ported (port : UInt16) := edited (Transport.withDestinationPort_length port room)
    simp only [Ipv4Packet.checkedSource_eq fits, Ipv4Packet.checkedDestination_eq fits,
      Transport.checkedSourcePort_eq (Nat.le_trans (by decide) room),
      Transport.checkedDestinationPort_eq (Nat.le_trans (by decide) room), Checked.ok_bind]
    rcases (translator.ports protocol).inbound translator.reclaimPorts now
      ⟨packet.source, Transport.sourcePort packet.payload⟩
      ⟨packet.destination, Transport.destinationPort packet.payload⟩ with ⟨_ | flow, state⟩
    · rfl
    · simp only [Transport.checkedWithDestinationPort_eq (Nat.le_trans (by decide) room),
        protocol.checkedRefreshed_eq (ported _), Ipv4Packet.checkedWithPayload_eq fits,
        Ipv4Packet.checkedWithDestination_eq (fits.withPayload _), Checked.ok_bind]
      rfl

/-- An echo request can be translated on its way out. -/
theorem checkedOutboundEcho_eq :
    translator.checkedOutboundEcho now packet = .ok (translator.outboundEcho now packet) := by
  rw [checkedOutboundEcho, Ipv4Packet.checkedPayload_eq fits, Checked.ok_bind, outboundEcho]
  cases read : IcmpMessage.parse packet.payload with
  | error cause => rfl
  | ok message =>
    -- A message that parses has room for the identifier that is read and written.
    have room := IcmpMessage.parse_room read
    simp only [IcmpMessage.checkedIsEchoRequest_eq room, IcmpMessage.checkedIdentifier_eq room,
      Ipv4Packet.checkedSource_eq fits, Ipv4Packet.checkedDestination_eq fits, Checked.ok_bind]
    cases message.isEchoRequest with
    | false => rfl
    | true =>
      simp only [Bool.not_true, Bool.false_eq_true, if_false]
      rcases translator.icmp.outbound translator.externalAddress now
        ⟨packet.source, message.identifier⟩ ⟨packet.destination, 0⟩ with ⟨_ | flow, state⟩
      · rfl
      · simp only [IcmpMessage.checkedWithIdentifier_eq room,
          Ipv4Packet.checkedWithPayload_eq fits,
          Ipv4Packet.checkedWithSource_eq (fits.withPayload _), Checked.ok_bind]
        rfl

/-- An echo can be translated on its way in. -/
theorem checkedInboundEcho_eq :
    translator.checkedInboundEcho now packet = .ok (translator.inboundEcho now packet) := by
  rw [checkedInboundEcho, Ipv4Packet.checkedPayload_eq fits, Checked.ok_bind, inboundEcho]
  cases read : IcmpMessage.parse packet.payload with
  | error cause => rfl
  | ok message =>
    have room := IcmpMessage.parse_room read
    -- A message that parses has room for the identifier that is read and written.
    simp only [IcmpMessage.checkedIsEchoReply_eq room, IcmpMessage.checkedIdentifier_eq room,
      Ipv4Packet.checkedSource_eq fits, Ipv4Packet.checkedDestination_eq fits, Checked.ok_bind]
    cases message.isEchoReply with
    | false => rfl
    | true =>
      simp only [Bool.not_true, Bool.false_eq_true, if_false]
      rcases translator.icmp.inbound now ⟨packet.source, 0⟩
        ⟨packet.destination, message.identifier⟩ with ⟨_ | flow, state⟩
      · rfl
      · simp only [IcmpMessage.checkedWithIdentifier_eq room,
          Ipv4Packet.checkedWithPayload_eq fits,
          Ipv4Packet.checkedWithDestination_eq (fits.withPayload _), Checked.ok_bind]
        rfl

/-- A packet can be translated on its way out. -/
theorem checkedOutbound_eq :
    translator.checkedOutbound now packet = .ok (translator.outbound now packet) := by
  rw [checkedOutbound, Ipv4Packet.checkedProtocol_eq fits, Checked.ok_bind, outbound]
  -- The protocol decides, and each translation is checked on its own.
  rcases TrackedProtocol.ofNumber? packet.protocol with _ | _ | _ | _
  · rfl
  · exact translator.checkedOutboundEcho_eq now fits
  · exact translator.checkedOutboundPorts_eq now fits .tcp
  · exact translator.checkedOutboundPorts_eq now fits .udp

/-- A packet can be translated on its way in. -/
theorem checkedInbound_eq :
    translator.checkedInbound now packet = .ok (translator.inbound now packet) := by
  rw [checkedInbound, Ipv4Packet.checkedProtocol_eq fits, Checked.ok_bind, inbound]
  -- The protocol decides, and each translation is checked on its own.
  rcases TrackedProtocol.ofNumber? packet.protocol with _ | _ | _ | _
  · rfl
  · exact translator.checkedInboundEcho_eq now fits
  · exact translator.checkedInboundPorts_eq now fits .tcp
  · exact translator.checkedInboundPorts_eq now fits .udp

omit fits in
/-- It can be told whether an address is internal. -/
theorem checkedIsInternal_eq {owns : Address .v4 → Checked Bool} {plain : Address .v4 → Bool}
    (same : ∀ address, owns address = .ok (plain address)) (address : Address .v4) :
    translator.checkedIsInternal owns address = .ok (translator.isInternal plain address) := by
  rw [checkedIsInternal, same, Checked.ok_bind,
    Checked.anyM_ok fun net => net.checkedContains_eq address, isInternal]
  cases plain address with
  | false => rfl
  | true => rfl

/-- A translator can take in a packet. -/
theorem checkedReceive_eq {owns : Address .v4 → Checked Bool} {plain : Address .v4 → Bool}
    (same : ∀ address, owns address = .ok (plain address)) (ingress : InterfaceId) :
    translator.checkedReceive now owns ingress packet =
      .ok (translator.receive now plain ingress packet) := by
  rw [checkedReceive, Ipv4Packet.checkedDestination_eq fits, Checked.ok_bind,
    translator.checkedIsInternal_eq same, Checked.ok_bind, translator.checkedOutbound_eq now fits,
    translator.checkedInbound_eq now fits, receive]
  -- Both directions can be translated, so it does not matter which one applies.
  simp only [Checked.ok_bind, Checked.pure_eq]
  split
  · split
    · rfl
    · rfl
  · split
    · split
      · rfl
      · rfl
    · rfl

end Fits

end Translator

namespace Policy

variable {family : Family} (policy : Policy family) {packet : Packet family}

/-- Takes a packet in on an interface of a node whose addresses `owns` tells. -/
def checkedReceive {family : Family} (policy : Policy family) (now : Nat)
    (owns : Address family → Checked Bool) (ingress : InterfaceId) (packet : Packet family) :
    Checked (Option (Packet family) × Policy family × List Tally) :=
  match family, policy, packet with
  | _, .plain, packet => .ok (some packet, .plain, [])
  | _, .ruled rules, packet => do
    let destination ← packet.checkedDestination
    return (if rules.consume = some destination then none else some packet, .ruled rules, [])
  | .v4, .translating translator, packet => do
    let (packet, translator, tallies) ← translator.checkedReceive now owns ingress packet
    return (packet, .translating translator, tallies)

/-- What is forwarded of a packet. -/
def checkedForward? (policy : Policy family) (packet : Packet family) :
    Checked (Option (Packet family)) :=
  match policy with
  | .ruled rules =>
    if rules.forwards then
      match rules.redirect with
      | none => .ok (some packet)
      | some destination => do return some (← packet.checkedWithDestination destination)
    else .ok none
  | _ => .ok (some packet)

/-- Whether an error about a packet may be reported. -/
def checkedAllowsError (policy : Policy family) (offending : Packet family) : Checked Bool := do
  let error ← offending.checkedIsControlError
  return !error && match policy with
    | .ruled rules => rules.reportsErrors
    | _ => true

variable (wellFormed : packet.WellFormed)
include wellFormed

/-- A policy can take in a packet. -/
theorem checkedReceive_eq (now : Nat) {owns : Address family → Checked Bool}
    {plain : Address family → Bool} (same : ∀ address, owns address = .ok (plain address))
    (ingress : InterfaceId) : policy.checkedReceive now owns ingress packet =
      .ok (policy.receive now plain ingress packet) := by
  -- A policy with a translator works on the bytes of the packet, and a rule on its destination only.
  cases policy with
  | plain => rfl
  | ruled rules =>
    simp only [checkedReceive, Packet.checkedDestination_eq wellFormed, Checked.ok_bind]
    rfl
  | translating translator =>
    have fits := Ipv4Packet.WellFormed.fits wellFormed
    simp only [checkedReceive, translator.checkedReceive_eq now fits same, Checked.ok_bind]
    rfl

/-- A policy can look at a packet that leaves. -/
theorem checkedForward?_eq : policy.checkedForward? packet = .ok (policy.forward? packet) := by
  cases policy with
  | plain => rfl
  | translating translator => rfl
  | ruled rules =>
    -- The destination is rewritten before the packet is let through, so it is read in both cases.
    rw [checkedForward?, forward?]
    cases rules.redirect with
    | none =>
      split
      · rfl
      · rfl
    | some destination =>
      simp only [Packet.checkedWithDestination_eq wellFormed]
      split
      · rfl
      · rfl

/-- It can be told whether an error may be reported. -/
theorem checkedAllowsError_eq :
    policy.checkedAllowsError packet = .ok (policy.allowsError packet) := by
  unfold checkedAllowsError
  rw [Packet.checkedIsControlError_eq wellFormed]
  rfl

end Policy

end NetworkLayer
