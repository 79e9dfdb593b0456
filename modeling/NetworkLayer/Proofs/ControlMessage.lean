import NetworkLayer.ControlMessage
import NetworkLayer.Proofs.Ipv6.Draft
import NetworkLayer.Proofs.Packet

/-!
The control messages that a node writes. Main statements: an error report can always be made, and it
goes back to the source of the packet that it is about; so does the echo of a request.
-/

namespace NetworkLayer

namespace IcmpMessage

/-- A message that is read has room for a header. -/
theorem parse_eq_ok {bytes : Bytes} {message : IcmpMessage} (read : parse bytes = .ok message) :
    message = ⟨bytes⟩ ∧ headerSize ≤ bytes.length := by
  simp only [parse] at read
  split at read
  · cases read
  cases read
  exact ⟨rfl, by omega⟩

/-- The header of a message that is read is there. -/
theorem parse_room {bytes : Bytes} {message : IcmpMessage} (read : parse bytes = .ok message) :
    headerSize ≤ message.bytes.length := by
  obtain ⟨rfl, room⟩ := parse_eq_ok read
  exact room

variable (kind : IcmpType) (code : UInt8) (header payload : Bytes)

/-- An error before its checksum has room for it. -/
theorem error_room : checksumOffset + 2 ≤
    ([kind.code, code, 0, 0, 0, 0, 0, 0] ++ header ++ payload.take 8).length := by
  simp only [checksumOffset, List.length_append, List.length_cons, List.length_nil]
  omega

/-- An error is no longer than its header, the quoted header and eight bytes. -/
theorem error_length : (error kind code header payload).length ≤ 16 + header.length := by
  rw [error, Checksum.stamp_length (error_room kind code header payload)]
  simp only [List.length_append, List.length_take, List.length_cons, List.length_nil]
  omega

/-- An error starts with its type and code. -/
theorem error_take : (error kind code header payload).take 2 = [kind.code, code] :=
  Checksum.slice_stamp_of_apart (error_room kind code header payload)
    (show 0 + 2 ≤ checksumOffset ∨ _ from Or.inl (by decide))

/-- An error ends with its quotation. -/
theorem error_drop : (error kind code header payload).drop 8 = header ++ payload.take 8 := by
  rw [error, Checksum.drop_stamp (error_room kind code header payload) (by decide)]
  rfl

/-- The echo of a request differs from it in its first four bytes alone. -/
theorem echoReply_of_room {request : Bytes} (room : 8 ≤ request.length) :
    ∃ reply, echoReply request = .ok reply ∧ reply.length = request.length ∧
      reply.take 1 = [IcmpType.echoReply.code] ∧ reply.drop 4 = request.drop 4 := by
  have renamed : (Bytes.patch request 0 [IcmpType.echoReply.code]).length = request.length :=
    Bytes.patch_byte_length (by omega) _
  have fits : checksumOffset + 2 ≤ (Bytes.patch request 0 [IcmpType.echoReply.code]).length := by
    rw [renamed]
    exact Nat.le_trans (by decide) room
  refine ⟨_, if_neg (Nat.not_lt.mpr room), ?_, ?_, ?_⟩
  · rw [Checksum.stamp_length fits, renamed]
  · -- The type stands in front of the checksum.
    exact (Checksum.slice_stamp_of_apart fits (show 0 + 1 ≤ _ ∨ _ from Or.inl (by decide))).trans
      (Bytes.slice_patch [IcmpType.echoReply.code] (Nat.zero_le _))
  · rw [Checksum.drop_stamp fits (by decide)]
    exact Bytes.drop_patch _ (Nat.zero_le _) (by simp)

end IcmpMessage

namespace Icmpv6Message

/-- A message that is read has room for a header. -/
theorem parse_eq_ok {bytes : Bytes} {message : Icmpv6Message} (read : parse bytes = .ok message) :
    message = ⟨bytes⟩ ∧ headerSize ≤ bytes.length := by
  simp only [parse] at read
  split at read
  · cases read
  cases read
  exact ⟨rfl, by omega⟩

/-- The header of a message that is read is there. -/
theorem parse_room {bytes : Bytes} {message : Icmpv6Message} (read : parse bytes = .ok message) :
    headerSize ≤ message.bytes.length := by
  obtain ⟨rfl, room⟩ := parse_eq_ok read
  exact room

variable (source destination : Address .v6) (message : Bytes)

/-- Filling in the checksum keeps the length of a message with room for one. -/
theorem stamp_length (room : 4 ≤ message.length) :
    (stamp source destination message).length = message.length :=
  Bytes.patch_length (by simpa using room)

/-- Filling in the checksum leaves type and code alone. -/
theorem stamp_take (room : 4 ≤ message.length) :
    (stamp source destination message).take 2 = message.take 2 :=
  Bytes.slice_patch_of_apart _ (by omega) (show 0 + 2 ≤ 2 ∨ _ from Or.inl (by decide))

/-- Filling in the checksum leaves what follows it alone. -/
theorem stamp_drop (room : 4 ≤ message.length) {start : Nat} (behind : 4 ≤ start) :
    (stamp source destination message).drop start = message.drop start :=
  Bytes.drop_patch _ (by omega) (by simpa using behind)

/-- A message with its checksum reads back as one of its type, with all that follows the checksum. -/
theorem parse_stamp (room : 4 ≤ message.length) :
    parse (stamp source destination message) = .ok ⟨stamp source destination message⟩ ∧
      Bytes.byteAt (stamp source destination message) 0 = Bytes.byteAt message 0 ∧
      (stamp source destination message).drop headerSize = message.drop headerSize := by
  -- The field that is written lies behind the type and in front of the body.
  have length := stamp_length source destination message room
  have long : ¬ (stamp source destination message).length < headerSize := by
    rw [length]
    exact Nat.not_lt.mpr room
  exact ⟨if_neg long, Bytes.byteAt_patch_of_apart _ (by omega) (Or.inl (by decide)),
    stamp_drop source destination message room (Nat.le_refl _)⟩

/-- The echo of a request differs from it in its first four bytes alone. -/
theorem echoReply_of_room {request : Bytes} (room : 8 ≤ request.length) :
    ∃ reply, echoReply request = .ok reply ∧ reply.length = request.length ∧
      reply.take 1 = [Icmpv6Type.echoReply.code] ∧ reply.drop 4 = request.drop 4 := by
  have renamed : (Bytes.patch request 0 [Icmpv6Type.echoReply.code]).length = request.length :=
    Bytes.patch_byte_length (by omega) _
  have within : 2 ≤ (Bytes.patch request 0 [Icmpv6Type.echoReply.code]).length := by omega
  -- The type is in the first byte and the checksum in the third and fourth, so the rest stays.
  refine ⟨_, if_neg (Nat.not_lt.mpr room), ?_, ?_, ?_⟩
  · rw [Bytes.patch_length (by simp only [List.length_cons, List.length_nil]; omega), renamed]
  · exact (Bytes.slice_patch_of_apart _ within (show 0 + 1 ≤ 2 ∨ _ from Or.inl (by decide))).trans
      (Bytes.slice_patch [Icmpv6Type.echoReply.code] (Nat.zero_le _))
  · rw [Bytes.drop_patch _ within (by simp), Bytes.drop_patch _ (Nat.zero_le _) (by simp)]

/-- What the packet that carries a message is made of. -/
def carried (hopLimit : UInt8) : Ipv6Draft where
  source
  destination
  hopLimit
  nextHeader := Protocol.icmpv6.number
  payload := stamp source destination message

/-- The packet that carries a message. -/
def carrier (hopLimit : UInt8) : Ipv6Packet :=
  ⟨encapsulate source destination hopLimit message, ⟨[], Protocol.icmpv6.number, 40⟩⟩

/-- A packet that carries a message is built from it alone. -/
theorem encapsulate_eq (hopLimit : UInt8) : encapsulate source destination hopLimit message =
    (carried source destination message hopLimit).encode := rfl

variable {message} (hopLimit : UInt8)

/-- A packet that carries a message has a fixed header in front of it. -/
theorem encapsulate_length (room : 4 ≤ message.length) :
    (encapsulate source destination hopLimit message).length =
      Ipv6Packet.headerSize + message.length := by
  have body : (carried source destination message hopLimit).body.length = message.length :=
    stamp_length source destination message room
  rw [encapsulate_eq, Ipv6Draft.encode_eq, List.length_append, Ipv6Draft.fixed_length, body]

/-- The message stands behind the fixed header of the packet that carries it, with its checksum. -/
theorem encapsulate_drop (message : Bytes) :
    (encapsulate source destination hopLimit message).drop Ipv6Packet.headerSize =
      stamp source destination message :=
  List.drop_left' (carried source destination message hopLimit).fixed_length

/-- The packet that carries a message is well formed unless it is too long for its length field. -/
theorem carrier_wellFormed (room : 4 ≤ message.length) (short : message.length < 65536) :
    (carrier source destination message hopLimit).WellFormed := by
  have body : (carried source destination message hopLimit).body.length = message.length :=
    stamp_length source destination message room
  refine Ipv6Draft.encode_wellFormed _ (body ▸ short) ?_
  -- What is announced is a control message and no extension header.
  have announced : Bytes.byteAt (carried source destination message hopLimit).encode 6 =
      Protocol.icmpv6.number := rfl
  have last : ExtensionHeader.isKind (Bytes.byteAt
      (carried source destination message hopLimit).encode 6) = false := by
    rw [announced]
    decide
  have stands : ExtensionChain.Stands (carried source destination message hopLimit).encode 6
      Ipv6Packet.headerSize _ := .upper last
  rwa [announced] at stands

/-- The source of the packet that carries a message reads back. -/
theorem carrier_source : (carrier source destination message hopLimit).source = source :=
  Ipv6Draft.encode_source (carried source destination message hopLimit) _

/-- The destination of the packet that carries a message reads back. -/
theorem carrier_destination :
    (carrier source destination message hopLimit).destination = destination :=
  Ipv6Draft.encode_destination (carried source destination message hopLimit) _

/-- The hop limit of the packet that carries a message reads back. -/
theorem carrier_hopLimit : (carrier source destination message hopLimit).hopLimit = hopLimit := rfl

/-- The message reads back, with its checksum. -/
theorem carrier_upperPayload : (carrier source destination message hopLimit).upperPayload =
    stamp source destination message :=
  encapsulate_drop source destination hopLimit message

end Icmpv6Message

namespace Packet

variable {family : Family}

/-- The count of hops of packets that start at a node. -/
def initialHops : UInt8 := 64

/-- A control message of a node, from a source to a destination. -/
structure Message (source destination : Address family) (packet : Packet family) : Prop where
  wellFormed : packet.WellFormed
  source : packet.source = source
  destination : packet.destination = destination
  hops : packet.hopsLeft = initialHops
  control : packet.isControl

/-- A packet that carries a control message of IPv4. -/
theorem carrying_message (source destination : Address .v4) {message : Bytes}
    (short : 20 + message.length < 65536) :
    Message source destination (carrying source destination message) ∧
      (carrying source destination message).upperPayload = message := by
  refine ⟨⟨Ipv4Draft.toPacket_wellFormed _ short, Ipv4Draft.toPacket_source _,
    Ipv4Draft.toPacket_destination _, Ipv4Draft.toPacket_ttl _, ?_⟩, Ipv4Draft.toPacket_payload _⟩
  -- The draft keeps what it is made from, so the protocol is the one of control messages.
  have protocol : (carrying source destination message).upperProtocol = Protocol.icmp.number :=
    Ipv4Draft.toPacket_protocol _
  rw [isControl, protocol]
  rfl

/-- A packet that carries a control message of IPv6 can be made and read back. -/
theorem carryingV6?_message (source destination : Address .v6) {message : Bytes}
    (room : 4 ≤ message.length) (short : message.length < 65536) :
    ∃ packet, carryingV6? source destination message = some packet ∧
      Message source destination packet ∧
      packet.upperPayload = Icmpv6Message.stamp source destination message := by
  have wellFormed :=
    Icmpv6Message.carrier_wellFormed source destination Ipv6Packet.initialHopLimit room short
  refine ⟨Icmpv6Message.carrier source destination message Ipv6Packet.initialHopLimit, ?_,
    ⟨wellFormed, Icmpv6Message.carrier_source ..,
      Icmpv6Message.carrier_destination .., Icmpv6Message.carrier_hopLimit .., rfl⟩,
    Icmpv6Message.carrier_upperPayload ..⟩
  -- The carrier is well formed, so reading it gives it back with its headers known.
  have read := Ipv6Packet.WellFormed.parse wellFormed
  simp only [Icmpv6Message.carrier] at read
  rw [carryingV6?, read]
  rfl

/-- The type and the code of an error report. -/
def errorStart : Family → ControlError → Bytes
  | .v4, .timeExceeded => [IcmpType.timeExceeded.code, IcmpMessage.ttlExceeded]
  | .v4, .unreachable => [IcmpType.destinationUnreachable.code, IcmpMessage.protocolUnreachable]
  | .v6, .timeExceeded => [Icmpv6Type.timeExceeded.code, Icmpv6Message.hopLimitExceeded]
  | .v6, .unreachable => [Icmpv6Type.destinationUnreachable.code, Icmpv6Message.addressUnreachable]

/-- How much of a packet an error report quotes. -/
def quotation {family : Family} (offending : Packet family) : Bytes :=
  match family, offending with
  | .v4, offending => Ipv4Packet.header offending ++ (Ipv4Packet.payload offending).take 8
  | .v6, offending => (Ipv6Packet.bytes offending).take Icmpv6Message.quoteLimit

/-- An error report about a packet, which quotes it and goes back to its source. -/
structure Reports (error : ControlError) (source : Address family)
    (offending report : Packet family) : Prop extends Message source offending.source report where
  kind : report.upperPayload.take 2 = errorStart family error
  quoted : report.upperPayload.drop 8 = offending.quotation

section Error

variable (error : ControlError)

/-- An error about an IPv4 packet can be reported from any source. -/
theorem errorReport?_v4 {offending : Packet .v4} (wellFormed : offending.WellFormed)
    (source : Address .v4) : ∃ report, offending.errorReport? error source = some report ∧
      Reports error source offending report := by
  have formed : Ipv4Packet.WellFormed offending := wellFormed
  -- Both errors are made the same way and differ in their type and code alone.
  have made (kind : IcmpType) (code : UInt8) : ∃ report,
      some (carrying source (Ipv4Packet.source offending) (IcmpMessage.error kind code
        (Ipv4Packet.header offending) (Ipv4Packet.payload offending))) = some report ∧
      Message source offending.source report ∧ report.upperPayload.take 2 = [kind.code, code] ∧
      report.upperPayload.drop 8 = offending.quotation := by
    -- A header of 60 bytes at most and eight more bytes are quoted, so the report is short.
    have limit := formed.header_short
    have length := IcmpMessage.error_length kind code (Ipv4Packet.header offending)
      (Ipv4Packet.payload offending)
    rw [Ipv4Packet.header_length formed.fits] at length
    obtain ⟨message, payload⟩ := carrying_message source (Ipv4Packet.source offending)
      (show 20 + (IcmpMessage.error kind code (Ipv4Packet.header offending)
        (Ipv4Packet.payload offending)).length < 65536 by omega)
    refine ⟨_, rfl, message, ?_, ?_⟩
    · rw [payload]
      exact IcmpMessage.error_take ..
    · rw [payload]
      exact IcmpMessage.error_drop ..
  cases error with
  | timeExceeded =>
    obtain ⟨report, result, message, kind, quoted⟩ :=
      made .timeExceeded IcmpMessage.ttlExceeded
    exact ⟨report, result, message, kind, quoted⟩
  | unreachable =>
    obtain ⟨report, result, message, kind, quoted⟩ :=
      made .destinationUnreachable IcmpMessage.protocolUnreachable
    exact ⟨report, result, message, kind, quoted⟩

/-- An error about an IPv6 packet can be reported from any source. -/
theorem errorReport?_v6 {offending : Packet .v6} (source : Address .v6) :
    ∃ report, offending.errorReport? error source = some report ∧
      Reports error source offending report := by
  -- Both errors are made the same way and differ in their type and code alone.
  have made (kind : Icmpv6Type) (code : UInt8) : ∃ report,
      carryingV6? source (Ipv6Packet.source offending)
        (Icmpv6Message.error kind code (Ipv6Packet.bytes offending)) = some report ∧
      Message source offending.source report ∧ report.upperPayload.take 2 = [kind.code, code] ∧
      report.upperPayload.drop 8 = offending.quotation := by
    have length : (Icmpv6Message.error kind code (Ipv6Packet.bytes offending)).length =
        8 + min Icmpv6Message.quoteLimit (Ipv6Packet.bytes offending).length := by
      simp only [Icmpv6Message.error, List.length_append, List.length_take, List.length_cons,
        List.length_nil]
    -- The quotation is cut at the least packet that every link carries.
    have limit : Icmpv6Message.quoteLimit = 1232 := rfl
    have room : 4 ≤ (Icmpv6Message.error kind code (Ipv6Packet.bytes offending)).length := by
      omega
    obtain ⟨report, result, message, payload⟩ := carryingV6?_message source
      (Ipv6Packet.source offending) room (by omega)
    refine ⟨report, result, message, ?_, ?_⟩
    · rw [payload, Icmpv6Message.stamp_take _ _ _ room]
      rfl
    · rw [payload, Icmpv6Message.stamp_drop _ _ _ room (by decide)]
      rfl
  cases error with
  | timeExceeded =>
    obtain ⟨report, result, message, kind, quoted⟩ :=
      made .timeExceeded Icmpv6Message.hopLimitExceeded
    exact ⟨report, result, message, kind, quoted⟩
  | unreachable =>
    obtain ⟨report, result, message, kind, quoted⟩ :=
      made .destinationUnreachable Icmpv6Message.addressUnreachable
    exact ⟨report, result, message, kind, quoted⟩

end Error

/-- An error about a well-formed packet can be reported from any source. -/
theorem errorReport?_reports {offending : Packet family} (wellFormed : offending.WellFormed)
    (error : ControlError) (source : Address family) :
    ∃ report, offending.errorReport? error source = some report ∧
      Reports error source offending report := by
  cases family with
  | v4 => exact errorReport?_v4 error wellFormed source
  | v6 => exact errorReport?_v6 error source

/-- The type of an echo. -/
def echoType : Family → UInt8
  | .v4 => IcmpType.echoReply.code
  | .v6 => Icmpv6Type.echoReply.code

/-- The echo of a request, which goes back to the source of the request with the same content. -/
structure Echoes (source : Address family) (request reply : Packet family) : Prop extends
    Message source request.source reply where
  kind : reply.upperPayload.head? = some (echoType family)
  content : reply.upperPayload.drop 4 = request.upperPayload.drop 4

/-- The echo of an IPv4 request with room for a header. -/
theorem echoReply?_v4 {request : Packet .v4} (wellFormed : request.WellFormed)
    (room : 8 ≤ request.upperPayload.length) (source : Address .v4) :
    ∃ reply, request.echoReply? source = some reply ∧ Echoes source request reply := by
  have limit : request.upperPayload.length ≤ 65515 := Ipv4Packet.WellFormed.payload_short wellFormed
  -- A reply is as long as its request, which came in a packet.
  obtain ⟨message, made, length, kind, content⟩ := IcmpMessage.echoReply_of_room room
  obtain ⟨reply, payload⟩ := carrying_message source (Ipv4Packet.source request)
    (show 20 + message.length < 65536 by omega)
  refine ⟨_, ?_, reply, ?_, ?_⟩
  · rw [echoReply?, made]
    rfl
  · rw [payload]
    exact Bytes.head?_of_take kind
  · rw [payload, content]

/-- The echo of an IPv6 request with an identifier and a sequence number. -/
theorem echoReply?_v6 {request : Packet .v6} (wellFormed : request.WellFormed)
    (room : 8 ≤ request.upperPayload.length) (source : Address .v6) :
    ∃ reply, request.echoReply? source = some reply ∧ Echoes source request reply := by
  have limit : request.upperPayload.length ≤ 65535 :=
    Ipv6Packet.WellFormed.upperPayload_short wellFormed
  obtain ⟨message, made, length, kind, content⟩ := Icmpv6Message.echoReply_of_room room
  have fits : 4 ≤ message.length := by omega
  obtain ⟨reply, encapsulated, carried, payload⟩ :=
    carryingV6?_message source request.source fits (by omega)
  refine ⟨reply, ?_, carried, ?_, ?_⟩
  · simp only [echoReply?, made, Except.toOption, Option.bind_eq_bind, Option.bind_some]
    exact encapsulated
  · -- The checksum stands behind the type.
    have both := congrArg (List.take 1)
      (Icmpv6Message.stamp_take source request.source message fits)
    simp only [List.take_take] at both
    rw [payload]
    exact Bytes.head?_of_take (both.trans kind)
  · rw [payload, Icmpv6Message.stamp_drop _ _ _ fits (Nat.le_refl _), content]

/-- A well-formed request for an echo gets one if it has an identifier and a sequence number. -/
theorem echoReply?_echoes {request : Packet family} (wellFormed : request.WellFormed)
    (room : 8 ≤ request.upperPayload.length) (source : Address family) :
    ∃ reply, request.echoReply? source = some reply ∧ Echoes source request reply := by
  cases family with
  | v4 => exact echoReply?_v4 wellFormed room source
  | v6 => exact echoReply?_v6 wellFormed room source

/-- Without an identifier and a sequence number there is no echo. -/
theorem echoReply?_of_short {request : Packet family} (short : request.upperPayload.length < 8)
    (source : Address family) : request.echoReply? source = none := by
  -- Either family refuses a request that is shorter than its own header.
  cases family with
  | v4 =>
    have refused : IcmpMessage.echoReply request.upperPayload =
        .error (.tooShort .icmpRequest) := if_pos short
    rw [echoReply?, refused]
    rfl
  | v6 =>
    have refused : Icmpv6Message.echoReply request.upperPayload =
        .error (.tooShort .icmpv6EchoRequest) := if_pos short
    rw [echoReply?, refused]
    rfl

/-- What is made of a well-formed request is an echo. -/
theorem echoes_of_echoReply? {request reply : Packet family} (wellFormed : request.WellFormed)
    {source : Address family} (made : request.echoReply? source = some reply) :
    Echoes source request reply := by
  rcases Nat.lt_or_ge request.upperPayload.length 8 with short | room
  · cases (echoReply?_of_short short source).symm.trans made
  · obtain ⟨echo, result, echoes⟩ := echoReply?_echoes wellFormed room source
    obtain rfl := Option.some.inj (result.symm.trans made)
    exact echoes

end Packet

end NetworkLayer
