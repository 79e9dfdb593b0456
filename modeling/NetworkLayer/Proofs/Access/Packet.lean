import NetworkLayer.Proofs.Access.Ipv4
import NetworkLayer.Proofs.Access.Ipv6
import NetworkLayer.Proofs.Access.Message

/-!
Packets of either family and the control messages that a node makes of them, with every access
checked. A well-formed packet is looked at, sent on, answered and reported without a wrong access.
-/

namespace NetworkLayer.Packet

variable {family : Family}

/-- Reads a packet of a family. -/
def checkedParse (family : Family) (data : Bytes) : Checked (Except Error (Packet family)) :=
  match family with
  | .v4 => Ipv4Packet.checkedParse data
  | .v6 => Ipv6Packet.checkedParse data

/-- Where the packet comes from. -/
def checkedSource {family : Family} (packet : Packet family) : Checked (Address family) :=
  match family, packet with
  | .v4, packet => Ipv4Packet.checkedSource packet
  | .v6, packet => Ipv6Packet.checkedSource packet

/-- Where the packet goes. -/
def checkedDestination {family : Family} (packet : Packet family) : Checked (Address family) :=
  match family, packet with
  | .v4, packet => Ipv4Packet.checkedDestination packet
  | .v6, packet => Ipv6Packet.checkedDestination packet

/-- The packet to another destination. -/
def checkedWithDestination {family : Family} (packet : Packet family) (address : Address family) :
    Checked (Packet family) :=
  match family, packet with
  | .v4, packet => Ipv4Packet.checkedWithDestination packet address
  | .v6, packet => Ipv6Packet.checkedWithDestination packet address

/-- The packet one hop on, unless it may make no further hop. -/
def checkedHopped? {family : Family} (packet : Packet family) : Checked (Option (Packet family)) :=
  match family, packet with
  | .v4, packet => Ipv4Packet.checkedHopped? packet
  | .v6, packet => Ipv6Packet.checkedHopped? packet

/-- Number of the upper-layer protocol, which is known of an IPv6 packet since it was read. -/
def checkedUpperProtocol {family : Family} (packet : Packet family) : Checked UInt8 :=
  match family, packet with
  | .v4, packet => Ipv4Packet.checkedProtocol packet
  | .v6, packet => .ok (Ipv6Packet.chain packet).upperProtocol

/-- What the packet carries for the upper layer. -/
def checkedUpperPayload {family : Family} (packet : Packet family) : Checked Bytes :=
  match family, packet with
  | .v4, packet => Ipv4Packet.checkedPayload packet
  | .v6, packet => Ipv6Packet.checkedUpperPayload packet

/-- Whether the packet carries a control message. -/
def checkedIsControl (packet : Packet family) : Checked Bool := do
  return (← packet.checkedUpperProtocol) == controlProtocol family

/-- Whether the packet reports an error. -/
def checkedIsControlError (packet : Packet family) : Checked Bool := do
  if ← packet.checkedIsControl then
    return (← packet.checkedUpperPayload).head?.any (isErrorType family)
  else return false

/-- Visits the segment that a packet has reached. -/
def checkedVisitSegment {family : Family} (packet : Packet family) :
    Checked (SegmentVisit family) :=
  match family, packet with
  | .v4, _ => .ok .arrived
  | .v6, packet => Ipv6Packet.checkedVisitSegment packet

/-- What the upper layer of a packet is. -/
def checkedControlMessage {family : Family} (packet : Packet family) : Checked ControlMessage := do
  if !(← packet.checkedIsControl) then return .none
  else
    let payload ← packet.checkedUpperPayload
    match family with
    | .v4 => match IcmpMessage.parse payload with
      | .ok message =>
        return if ← message.checkedIsEchoRequest then .echoRequest else .other
      | .error _ => return .malformed
    | .v6 => match Icmpv6Message.parse payload with
      | .ok message =>
        return if ← message.checkedIsEchoRequest then .echoRequest else .other
      | .error _ => return .malformed

/-- The IPv4 packet that carries a control message. -/
def checkedCarrying (source destination : Address .v4) (message : Bytes) : Checked (Packet .v4) :=
  Ipv4Draft.checkedToPacket {
    protocol := Protocol.icmp.number
    source
    destination
    payload := message }

/-- The IPv6 packet that carries a control message, if it can be read back. -/
def checkedCarryingV6? (source destination : Address .v6) (message : Bytes) :
    Checked (Option (Packet .v6)) := do
  let bytes ← Icmpv6Message.checkedEncapsulate source destination Ipv6Packet.initialHopLimit message
  return (← Ipv6Packet.checkedParse bytes).toOption

/-- The echo of a request. -/
def checkedEchoReply? {family : Family} (request : Packet family) (source : Address family) :
    Checked (Option (Packet family)) :=
  match family, request with
  | .v4, request => do
    match ← IcmpMessage.checkedEchoReply (← Ipv4Packet.checkedPayload request) with
    | .ok message => return some (← checkedCarrying source (← request.checkedSource) message)
    | .error _ => return none
  | .v6, request => do
    match ← Icmpv6Message.checkedEchoReply (← Ipv6Packet.checkedUpperPayload request) with
    | .ok message => checkedCarryingV6? source (← request.checkedSource) message
    | .error _ => return none

/-- The report of an error about a packet. -/
def checkedErrorReport? {family : Family} (offending : Packet family) (error : ControlError)
    (source : Address family) : Checked (Option (Packet family)) :=
  match family, offending with
  | .v4, offending => do
    let (kind, code) := match error with
      | .timeExceeded => (IcmpType.timeExceeded, IcmpMessage.ttlExceeded)
      | .unreachable => (.destinationUnreachable, IcmpMessage.protocolUnreachable)
    let header ← Ipv4Packet.checkedHeader offending
    let payload ← Ipv4Packet.checkedPayload offending
    let message ← IcmpMessage.checkedError kind code header payload
    return some (← checkedCarrying source (← offending.checkedSource) message)
  | .v6, offending => do
    let (kind, code) := match error with
      | .timeExceeded => (Icmpv6Type.timeExceeded, Icmpv6Message.hopLimitExceeded)
      | .unreachable => (.destinationUnreachable, Icmpv6Message.addressUnreachable)
    let message ← Icmpv6Message.checkedError kind code (Ipv6Packet.bytes offending)
    checkedCarryingV6? source (← offending.checkedSource) message

/-- Whatever is read, no access to it goes wrong. -/
theorem checkedParse_eq (data : Bytes) : checkedParse family data = .ok (parse family data) := by
  cases family with
  | v4 => exact Ipv4Packet.checkedParse_eq data
  | v6 => exact Ipv6Packet.checkedParse_eq data

/-- A packet can be built around a control message of IPv4. -/
theorem checkedCarrying_eq (source destination : Address .v4) (message : Bytes) :
    checkedCarrying source destination message = .ok (carrying source destination message) :=
  Ipv4Draft.checkedToPacket_eq _

/-- A packet can be built around a control message of IPv6. -/
theorem checkedCarryingV6?_eq (source destination : Address .v6) {message : Bytes}
    (room : 4 ≤ message.length) : checkedCarryingV6? source destination message =
      .ok (carryingV6? source destination message) := by
  rw [checkedCarryingV6?, Icmpv6Message.checkedEncapsulate_eq room, Checked.ok_bind,
    Ipv6Packet.checkedParse_eq]
  rfl

section WellFormed

variable {packet : Packet family} (wellFormed : packet.WellFormed)
include wellFormed

/-- The source is there. -/
theorem checkedSource_eq : packet.checkedSource = .ok packet.source := by
  cases family with
  | v4 => exact Ipv4Packet.checkedSource_eq (Ipv4Packet.WellFormed.fits wellFormed)
  | v6 => exact Ipv6Packet.checkedSource_eq wellFormed

/-- The destination is there. -/
theorem checkedDestination_eq : packet.checkedDestination = .ok packet.destination := by
  cases family with
  | v4 => exact Ipv4Packet.checkedDestination_eq (Ipv4Packet.WellFormed.fits wellFormed)
  | v6 => exact Ipv6Packet.checkedDestination_eq wellFormed

/-- The destination can be replaced. -/
theorem checkedWithDestination_eq (address : Address family) :
    packet.checkedWithDestination address = .ok (packet.withDestination address) := by
  cases family with
  | v4 => exact Ipv4Packet.checkedWithDestination_eq (Ipv4Packet.WellFormed.fits wellFormed) address
  | v6 => exact Ipv6Packet.checkedWithDestination_eq wellFormed address

/-- A packet can make a hop. -/
theorem checkedHopped?_eq : packet.checkedHopped? = .ok packet.hopped? := by
  cases family with
  | v4 => exact Ipv4Packet.checkedHopped?_eq (Ipv4Packet.WellFormed.fits wellFormed)
  | v6 => exact Ipv6Packet.checkedHopped?_eq wellFormed

/-- The protocol is there. -/
theorem checkedUpperProtocol_eq : packet.checkedUpperProtocol = .ok packet.upperProtocol := by
  cases family with
  | v4 => exact Ipv4Packet.checkedProtocol_eq (Ipv4Packet.WellFormed.fits wellFormed)
  | v6 => rfl

/-- The upper layer is there, if only as no byte. -/
theorem checkedUpperPayload_eq : packet.checkedUpperPayload = .ok packet.upperPayload := by
  cases family with
  | v4 => exact Ipv4Packet.checkedPayload_eq (Ipv4Packet.WellFormed.fits wellFormed)
  | v6 => exact Ipv6Packet.checkedUpperPayload_eq wellFormed

/-- It can be told whether a packet carries a control message. -/
theorem checkedIsControl_eq : packet.checkedIsControl = .ok packet.isControl := by
  rw [checkedIsControl, checkedUpperProtocol_eq wellFormed]
  rfl

/-- It can be told whether a packet reports an error. -/
theorem checkedIsControlError_eq : packet.checkedIsControlError = .ok packet.isControlError := by
  rw [checkedIsControlError, checkedIsControl_eq wellFormed, Checked.ok_bind,
    checkedUpperPayload_eq wellFormed, isControlError]
  cases packet.isControl with
  | false => rfl
  | true => rfl

/-- A segment can be visited. -/
theorem checkedVisitSegment_eq : packet.checkedVisitSegment = .ok packet.visitSegment := by
  cases family with
  | v4 => rfl
  | v6 => exact Ipv6Packet.checkedVisitSegment_eq wellFormed

/-- It can be told what the upper layer is. -/
theorem checkedControlMessage_eq : packet.checkedControlMessage = .ok packet.controlMessage := by
  rw [checkedControlMessage, checkedIsControl_eq wellFormed, Checked.ok_bind,
    checkedUpperPayload_eq wellFormed]
  -- A message that is read is as long as its header, so its type is there.
  cases control : packet.isControl with
  | false =>
    cases family with
    | v4 => simp only [controlMessage, control, Bool.not_false, if_true, Checked.pure_eq]
    | v6 => simp only [controlMessage, control, Bool.not_false, if_true, Checked.pure_eq]
  | true =>
    simp only [Bool.not_true, Bool.false_eq_true, if_false, Checked.ok_bind]
    cases family with
    -- The two families read messages of their own, and each asks for room once it has parsed one.
    | v4 =>
      simp only [controlMessage, control, Bool.not_true, Bool.false_eq_true, if_false]
      cases read : IcmpMessage.parse packet.upperPayload with
      | error cause => rfl
      | ok message =>
        simp only [IcmpMessage.checkedIsEchoRequest_eq (IcmpMessage.parse_room read),
          Checked.ok_bind, Checked.pure_eq]
    | v6 =>
      simp only [controlMessage, control, Bool.not_true, Bool.false_eq_true, if_false]
      cases read : Icmpv6Message.parse packet.upperPayload with
      | error cause => rfl
      | ok message =>
        simp only [Icmpv6Message.checkedIsEchoRequest_eq (Icmpv6Message.parse_room read),
          Checked.ok_bind, Checked.pure_eq]

/-- An echo can be made of every request. -/
theorem checkedEchoReply?_eq (source : Address family) :
    packet.checkedEchoReply? source = .ok (packet.echoReply? source) := by
  have payload := checkedUpperPayload_eq wellFormed
  have back := checkedSource_eq wellFormed
  cases family with
  -- The payload and the source are read the same way, and only the message differs between the families.
  | v4 =>
    simp only [checkedUpperPayload] at payload
    simp only [checkedEchoReply?, echoReply?, payload, back, Checked.ok_bind,
      IcmpMessage.checkedEchoReply_eq]
    cases IcmpMessage.echoReply packet.upperPayload with
    | error cause => rfl
    | ok message =>
      simp only [checkedCarrying_eq, Checked.ok_bind]
      rfl
  | v6 =>
    simp only [checkedUpperPayload] at payload
    simp only [checkedEchoReply?, echoReply?, payload, back, Checked.ok_bind,
      Icmpv6Message.checkedEchoReply_eq]
    -- A reply is as long as its request, so a checksum has room in it.
    rcases Nat.lt_or_ge packet.upperPayload.length 8 with short | room
    · have refused : Icmpv6Message.echoReply packet.upperPayload =
          .error (.tooShort .icmpv6EchoRequest) := if_pos short
      rw [refused]
      rfl
    · obtain ⟨message, made, length, -, -⟩ := Icmpv6Message.echoReply_of_room room
      simp only [made, Except.toOption, Option.bind_eq_bind, Option.bind_some]
      exact checkedCarryingV6?_eq source packet.source (by omega)

/-- An error about a packet can be reported. -/
theorem checkedErrorReport?_eq (error : ControlError) (source : Address family) :
    packet.checkedErrorReport? error source = .ok (packet.errorReport? error source) := by
  have back := checkedSource_eq wellFormed
  cases family with
  | v4 =>
    have fits := Ipv4Packet.WellFormed.fits wellFormed
    -- The two errors differ in their type and code alone.
    cases error <;>
      simp only [checkedErrorReport?, errorReport?, Ipv4Packet.checkedHeader_eq fits,
        Ipv4Packet.checkedPayload_eq fits, back, Checked.ok_bind, IcmpMessage.checkedError_eq,
        checkedCarrying_eq, Checked.pure_eq]
  | v6 =>
    simp only [checkedErrorReport?, errorReport?, back, Checked.ok_bind,
      Icmpv6Message.checkedError_eq]
    -- The eight bytes in front of the quotation have room for a checksum.
    refine checkedCarryingV6?_eq source packet.source ?_
    rw [Icmpv6Message.error, List.length_append]
    exact Nat.le_trans (show 4 ≤ 8 by decide) (Nat.le_add_right 8 _)

end WellFormed

end NetworkLayer.Packet
