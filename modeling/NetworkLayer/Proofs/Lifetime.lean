import NetworkLayer.Proofs.ControlMessage
import NetworkLayer.Proofs.SegmentEndpoint

/-!
How long a packet lasts. A hop takes one from its count, and what it calls for is of a lesser kind: an
echo request may call for an echo, an echo for an error, and an error for nothing. Main statements: a
packet one hop on, an echo and an error report last less long than the packet that they come from.
-/

namespace NetworkLayer.Packet

variable {family : Family}

/-- The type of the control message that a packet carries. -/
def controlType? (packet : Packet family) : Option UInt8 :=
  if packet.isControl then packet.upperPayload.head? else none

/-- The type of an echo request. -/
def requestType : Family → UInt8
  | .v4 => IcmpType.echoRequest.code
  | .v6 => Icmpv6Type.echoRequest.code

/-- How many packets can call for each other in a row, beginning with what this one calls for. -/
def generations (packet : Packet family) : Nat :=
  match packet.controlType? with
  | none => 1
  | some kind =>
    if isErrorType family kind then 0 else if kind = requestType family then 2 else 1

/-- More nodes than a packet and what it leads to can pass one after another. -/
def lifetime (packet : Packet family) : Nat :=
  packet.hopsLeft.toNat + 65 * packet.generations

/-- No packet lasts longer than an echo request with all hops before it. -/
theorem lifetime_le (packet : Packet family) : packet.lifetime ≤ 385 := by
  -- At most 255 hops and two generations: 255 + 2 * 65 = 385.
  have hops := packet.hopsLeft.toNat_lt
  have few : packet.generations ≤ 2 := by
    rw [generations]
    split
    · decide
    · split
      · decide
      · split
        · decide
        · decide
  rw [lifetime]
  omega

section Kind

variable {packet : Packet family}

/-- A packet reports an error if the type of its control message is one of an error. -/
theorem isControlError_eq :
    packet.isControlError = packet.controlType?.any (isErrorType family) := by
  rw [isControlError, controlType?]
  -- Only a control message has a type to look at.
  by_cases control : packet.isControl
  · rw [control]
    simp
  · rw [Bool.not_eq_true] at control
    rw [control]
    simp

/-- A packet that reports no error may call for one. -/
theorem generations_pos (noError : packet.isControlError = false) : 1 ≤ packet.generations := by
  rw [isControlError_eq] at noError
  rw [generations]
  -- A packet counts by the kind of its message, of which only an error is excluded.
  split
  · exact Nat.le_refl 1
  · rename_i kind found
    rw [found, Option.any_some] at noError
    rw [noError]
    split
    · contradiction
    · split
      · decide
      · decide

/-- What reports an error calls for nothing. -/
theorem generations_of_error {kind : UInt8} (found : packet.controlType? = some kind)
    (reports : isErrorType family kind) : packet.generations = 0 := by
  rw [generations, found]
  exact if_pos reports

/-- What is neither an error nor an echo request can call for an error alone. -/
theorem generations_of_other {kind : UInt8} (found : packet.controlType? = some kind)
    (noError : ¬ isErrorType family kind) (other : kind ≠ requestType family) :
    packet.generations = 1 := by
  rw [generations, found]
  simp only [if_neg noError, if_neg other]

/-- A message that is read and has a type starts with that type. -/
theorem head?_of_byteAt {bytes : Bytes} {kind : UInt8} (room : 0 < bytes.length)
    (first : Bytes.byteAt bytes 0 = kind) : bytes.head? = some kind := by
  cases bytes with
  | nil => cases room
  | cons head rest => exact congrArg some first

/-- An echo request starts with its type. -/
theorem requestType_of_controlMessage (asks : packet.controlMessage = .echoRequest) :
    packet.controlType? = some (requestType family) := by
  -- Anything but a control message is no echo request.
  have control : packet.isControl := by
    refine Decidable.byContradiction fun other => ?_
    rw [Bool.not_eq_true] at other
    cases family <;>
      simp only [controlMessage, other, Bool.not_false, if_true, reduceCtorEq] at asks
  rw [controlType?, if_pos control]
  -- Either family reads the type from the first byte of a message that is long enough.
  cases family with
  | v4 =>
    simp only [controlMessage, control, Bool.not_true, Bool.false_eq_true, if_false,
      IcmpMessage.parse] at asks
    by_cases short : packet.upperPayload.length < IcmpMessage.headerSize
    · simp only [if_pos short, reduceCtorEq] at asks
    · by_cases request : (IcmpMessage.mk packet.upperPayload).isEchoRequest
      · exact head?_of_byteAt (Nat.lt_of_lt_of_le (by decide) (Nat.le_of_not_lt short))
          (eq_of_beq request)
      · simp only [if_neg short, if_neg request, reduceCtorEq] at asks
  | v6 =>
    simp only [controlMessage, control, Bool.not_true, Bool.false_eq_true, if_false,
      Icmpv6Message.parse] at asks
    by_cases short : packet.upperPayload.length < Icmpv6Message.headerSize
    · simp only [if_pos short, reduceCtorEq] at asks
    · by_cases request : (Icmpv6Message.mk packet.upperPayload).isEchoRequest
      · exact head?_of_byteAt (Nat.lt_of_lt_of_le (by decide) (Nat.le_of_not_lt short))
          (eq_of_beq request)
      · simp only [if_neg short, if_neg request, reduceCtorEq] at asks

/-- An echo request can call for an echo, and that for an error. -/
theorem generations_of_request (asks : packet.controlMessage = .echoRequest) :
    packet.generations = 2 := by
  -- An echo request is no error, so it calls for an echo first.
  have noError : ¬ isErrorType family (requestType family) := by
    cases family <;> decide
  rw [generations, requestType_of_controlMessage asks]
  simp only [if_neg noError, if_true]

end Kind

/-- A packet that lasts as long as another one. -/
structure Alike (before after : Packet family) : Prop where
  wellFormed : after.WellFormed
  hops : after.hopsLeft = before.hopsLeft
  kind : after.controlType? = before.controlType?

namespace Alike

/-- A well-formed packet lasts as long as itself. -/
theorem refl {packet : Packet family} (wellFormed : packet.WellFormed) : Alike packet packet :=
  ⟨wellFormed, rfl, rfl⟩

/-- Packets that are alike last equally long. -/
theorem lifetime {before after : Packet family} (alike : Alike before after) :
    after.lifetime = before.lifetime := by
  rw [Packet.lifetime, Packet.lifetime, generations, generations, alike.hops, alike.kind]

/-- Likeness carries over. -/
theorem trans {first second third : Packet family} (left : Alike first second)
    (right : Alike second third) : Alike first third :=
  ⟨right.wellFormed, right.hops.trans left.hops, right.kind.trans left.kind⟩

end Alike

/-- Packets of the same protocol carry control messages of the same type if these start alike. -/
theorem controlType?_congr {before after : Packet family}
    (protocol : after.upperProtocol = before.upperProtocol)
    (kind : before.isControl → after.upperPayload.head? = before.upperPayload.head?) :
    after.controlType? = before.controlType? := by
  have control : after.isControl = before.isControl := by
    rw [isControl, isControl, protocol]
  rw [controlType?, controlType?, control]
  -- Either both packets carry a control message or neither does.
  by_cases message : before.isControl
  · rw [if_pos message, if_pos message, kind message]
  · rw [if_neg message, if_neg message]

/-- A header field behind the checksum makes no difference to how long an IPv4 packet lasts. -/
theorem withField_alike {packet : Packet .v4} (wellFormed : packet.WellFormed) {offset : Nat}
    {field : Bytes} (behind : 12 ≤ offset)
    (within : offset + field.length ≤ Ipv4Packet.headerLength packet) :
    @Alike .v4 packet (Ipv4Packet.withField packet offset field) := by
  have formed : Ipv4Packet.WellFormed packet := wellFormed
  -- Count and protocol stand in front of the checksum, which stands in front of the field.
  have kept {index : Nat} (front : index < 10) :=
    Bytes.byteAt_congr (Ipv4Packet.withField_getElem? formed.fits within (Or.inl front)
      (Or.inl (show index < offset by omega)))
  exact ⟨formed.withField (by omega) within, kept (show 8 < 10 by decide),
    controlType?_congr (kept (show 9 < 10 by decide)) fun _ =>
      congrArg List.head? (Ipv4Packet.withField_payload formed.fits within)⟩

/-- Another destination makes no difference to how long a packet lasts. -/
theorem withDestination_alike {packet : Packet family} (wellFormed : packet.WellFormed)
    (destination : Address family) : Alike packet (packet.withDestination destination) := by
  -- The address is a field of the header, which the upper layer stands behind.
  cases family with
  | v4 =>
    have formed : Ipv4Packet.WellFormed packet := wellFormed
    exact withField_alike wellFormed (by decide)
      (Ipv4Packet.address_within formed.fits destination 16 (by decide))
  | v6 =>
    have formed : Ipv6Packet.WellFormed packet := wellFormed
    have payload := Ipv6Packet.withField_upperPayload formed
      (show 24 + destination.octets.length ≤ _ by simp [Family.bits, Ipv6Packet.headerSize])
    exact ⟨formed.withDestination destination, Ipv6Packet.withDestination_hopLimit formed _,
      controlType?_congr rfl fun _ => congrArg List.head? payload⟩

/-- Another source makes no difference to how long a packet lasts. -/
theorem withSource_alike {packet : Packet .v4} (wellFormed : packet.WellFormed)
    (source : Address .v4) : @Alike .v4 packet (Ipv4Packet.withSource packet source) := by
  have formed : Ipv4Packet.WellFormed packet := wellFormed
  exact withField_alike wellFormed (by decide)
    (Ipv4Packet.address_within formed.fits source 12 (by decide))

/-- A payload that is rewritten in place makes no difference to how long a packet lasts, as long as
a control message keeps its type. -/
theorem withPayload_alike {packet : Packet .v4} (wellFormed : packet.WellFormed) {payload : Bytes}
    (same : payload.length = packet.upperPayload.length)
    (kind : packet.isControl → payload.head? = packet.upperPayload.head?) :
    @Alike .v4 packet (Ipv4Packet.withPayload packet payload) := by
  have formed : Ipv4Packet.WellFormed packet := wellFormed
  have least : (20 : Nat) ≤ Ipv4Packet.headerLength packet := formed.fits.1
  -- Count and protocol stand between the length field and the checksum.
  have kept {index : Nat} (reached : 4 ≤ index) (front : index < 10) :=
    Bytes.byteAt_congr (Ipv4Packet.withPayload_getElem? formed.fits payload
      (show index < _ by omega) (Or.inr reached) (Or.inl front))
  refine ⟨formed.withPayload_of_length same, kept (by decide) (show 8 < 10 by decide),
    controlType?_congr (kept (by decide) (show 9 < 10 by decide)) fun control => ?_⟩
  exact (congrArg List.head? (Ipv4Packet.withPayload_payload formed.fits payload)).trans
    (kind control)

/-- The way to the next segment makes no difference to how long a packet lasts. -/
theorem onward_alike {packet onward : Packet family} (wellFormed : packet.WellFormed)
    (sent : packet.visitSegment = .onward onward) : Alike packet onward := by
  -- Only IPv6 has segments.
  cases family with
  | v4 => cases sent
  | v6 =>
    obtain ⟨formed, same, _⟩ := Ipv6Packet.visitSegment_onward wellFormed sent
    exact ⟨formed, same.hopLimit,
      controlType?_congr same.protocol fun _ => congrArg List.head? same.payload⟩

/-- On the way to the next segment a packet has fewer visits left to make. -/
theorem onward_visitsLeft {packet onward : Packet family} (wellFormed : packet.WellFormed)
    (sent : packet.visitSegment = .onward onward) : onward.visitsLeft < packet.visitsLeft := by
  cases family with
  | v4 => cases sent
  | v6 => exact (Ipv6Packet.visitSegment_onward wellFormed sent).2.2

section Less

variable {before after : Packet family}

/-- One hop on, a packet lasts one node less long. -/
theorem OneHopOn.lifetime (hop : OneHopOn before after) (route : SameRoute before after)
    (lives : 1 < before.hopsLeft) : after.lifetime + 1 = before.lifetime := by
  have positive : before.hopsLeft ≠ 0 := fun zero => by
    rw [zero] at lives
    exact absurd lives (by decide)
  -- The count does not wrap, since it is not zero.
  have hops := Bytes.toNat_sub_one positive
  rw [Packet.lifetime, Packet.lifetime, generations, generations,
    controlType?_congr route.protocol fun _ => congrArg List.head? route.payload, hop.hops]
  omega

/-- A control message of a node lasts as its type tells. -/
theorem Message.lifetime {source destination : Address family} {packet : Packet family}
    (message : Message source destination packet) :
    packet.lifetime = 64 + 65 * packet.generations := by
  rw [Packet.lifetime, message.hops]
  rfl

/-- The type of a control message of a node is the first byte that it carries. -/
theorem Message.controlType? {source destination : Address family} {packet : Packet family}
    (message : Message source destination packet) :
    packet.controlType? = packet.upperPayload.head? :=
  if_pos message.control

/-- A report starts with the type of an error. -/
theorem errorStart_eq (family : Family) (error : ControlError) :
    ∃ kind rest, errorStart family error = kind :: rest ∧ isErrorType family kind := by
  cases family <;> cases error <;> exact ⟨_, _, rfl, by decide⟩

/-- A report lasts less long than the packet that it is about. -/
theorem Reports.lifetime_lt {error : ControlError} {source : Address family}
    {offending report : Packet family} (reports : Reports error source offending report)
    (noError : offending.isControlError = false) : report.lifetime < offending.lifetime := by
  obtain ⟨kind, rest, start, isError⟩ := errorStart_eq family error
  have found : report.controlType? = some kind :=
    reports.toMessage.controlType?.trans (Bytes.head?_of_take (reports.kind.trans start))
  -- An error calls for nothing, so 64 hops are all that is left, and 65 are there to be used.
  have many := generations_pos noError
  rw [reports.toMessage.lifetime, generations_of_error found isError, Packet.lifetime]
  omega

/-- An echo lasts less long than the request for it. -/
theorem Echoes.lifetime_lt {source : Address family} {request reply : Packet family}
    (echoes : Echoes source request reply) (asks : request.controlMessage = .echoRequest) :
    reply.lifetime < request.lifetime := by
  have found : reply.controlType? = some (echoType family) :=
    echoes.toMessage.controlType?.trans echoes.kind
  -- An echo is one generation behind its request, which outweighs the 64 hops it starts with.
  have one : reply.generations = 1 :=
    generations_of_other found (by cases family <;> decide) (by cases family <;> decide)
  rw [echoes.toMessage.lifetime, one, Packet.lifetime, generations_of_request asks]
  omega

end Less

end NetworkLayer.Packet
