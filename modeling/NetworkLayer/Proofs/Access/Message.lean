import NetworkLayer.Proofs.Access.Checked
import NetworkLayer.Proofs.Checksum
import NetworkLayer.Proofs.ControlMessage
import NetworkLayer.Proofs.Transport

/-!
Control messages and segments, read, edited and built with every access checked. A message that is
as long as its header is read, answered and rewritten without a wrong access.
-/

namespace NetworkLayer

namespace Checksum

/-- The sum of 16-bit words, each of which has to have both of its bytes. -/
def checkedWordSum (start : Nat) : Bytes → Checked Nat
  | [] => .ok start
  | [_] => .error .range
  | high :: low :: rest => checkedWordSum (start + high.toNat * 256 + low.toNat) rest

/-- The sum of the words of two addresses. -/
def checkedPairSum {family : Family} (source destination : Address family) : Checked Nat := do
  checkedWordSum (← checkedWordSum 0 source.octets) destination.octets

/-- The byte string with its own checksum in the word at an offset. -/
def checkedStamp (bytes : Bytes) (offset : Nat) : Checked Bytes := do
  let blank ← Checked.write bytes offset 2 [0, 0]
  Checked.write blank offset 2 (Bytes.ofWord (ofBytes blank))

/-- An even number of bytes are whole words. -/
theorem checkedWordSum_eq {bytes : Bytes} (even : bytes.length % 2 = 0) (start : Nat) :
    checkedWordSum start bytes = .ok (wordSum start bytes) := by
  -- The words are taken two bytes at a time, and an odd byte does not occur.
  induction start, bytes using wordSum.induct with
  | case1 start => rfl
  | case2 start high => simp at even
  | case3 start high low rest ih =>
    simp only [List.length_cons] at even
    rw [checkedWordSum, wordSum, ih (by omega)]

/-- The octets of addresses are whole words. -/
theorem checkedPairSum_eq {family : Family} (source destination : Address family) :
    checkedPairSum source destination = .ok (wordSum 0 (source.octets ++ destination.octets)) := by
  -- Four and sixteen are even, so no address ends in half a word.
  have even (address : Address family) : address.octets.length % 2 = 0 := by
    rw [Address.octets_length]
    cases family <;> rfl
  rw [checkedPairSum, checkedWordSum_eq (even source), Checked.ok_bind,
    checkedWordSum_eq (even destination), wordSum_append (even source), wordSum_start]

/-- A checksum can be written where a word has room. -/
theorem checkedStamp_eq {bytes : Bytes} {offset : Nat} (room : offset + 2 ≤ bytes.length) :
    checkedStamp bytes offset = .ok (stamp bytes offset) := by
  -- Emptying the place of the checksum leaves the length alone.
  have blank : (Bytes.patch bytes offset [0, 0]).length = bytes.length := Bytes.patch_length room
  rw [checkedStamp, Checked.write_ok (show [0, 0].length = 2 from rfl) room, Checked.ok_bind,
    Checked.write_ok (Bytes.ofWord_length _) (by rw [blank]; exact room)]
  rfl

end Checksum

namespace Transport

/-- The port that sends. -/
def checkedSourcePort (segment : Bytes) : Checked UInt16 := Checked.word segment 0

/-- The port that receives. -/
def checkedDestinationPort (segment : Bytes) : Checked UInt16 := Checked.word segment 2

/-- The segment from another port. -/
def checkedWithSourcePort (segment : Bytes) (port : UInt16) : Checked Bytes :=
  Checked.write segment 0 2 (Bytes.ofWord port)

/-- The segment to another port. -/
def checkedWithDestinationPort (segment : Bytes) (port : UInt16) : Checked Bytes :=
  Checked.write segment 2 2 (Bytes.ofWord port)

/-- The segment with its checksum in the word at an offset. -/
def checkedStamp (source destination : Address .v4) (protocol : UInt8) (offset : Nat)
    (segment : Bytes) (replacing : UInt16 → UInt16) : Checked Bytes := do
  let blank ← Checked.write segment offset 2 [0, 0]
  let addresses ← Checksum.checkedPairSum source destination
  let sum := addresses + protocol.toNat + blank.length
  Checked.write blank offset 2 (Bytes.ofWord (replacing (Checksum.continued sum blank)))

variable {segment : Bytes}

/-- The source port of a segment with room for both is there. -/
theorem checkedSourcePort_eq (room : 4 ≤ segment.length) :
    checkedSourcePort segment = .ok (sourcePort segment) :=
  Checked.word_ok (by omega)

/-- The destination port of a segment with room for both is there. -/
theorem checkedDestinationPort_eq (room : 4 ≤ segment.length) :
    checkedDestinationPort segment = .ok (destinationPort segment) :=
  Checked.word_ok (by omega)

/-- The source port can be replaced. -/
theorem checkedWithSourcePort_eq (room : 4 ≤ segment.length) (port : UInt16) :
    checkedWithSourcePort segment port = .ok (withSourcePort segment port) :=
  Checked.write_ok (Bytes.ofWord_length port) (by omega)

/-- The destination port can be replaced. -/
theorem checkedWithDestinationPort_eq (room : 4 ≤ segment.length) (port : UInt16) :
    checkedWithDestinationPort segment port = .ok (withDestinationPort segment port) :=
  Checked.write_ok (Bytes.ofWord_length port) room

/-- A checksum can be written where a word has room. -/
theorem checkedStamp_eq {offset : Nat} (room : offset + 2 ≤ segment.length)
    (source destination : Address .v4) (protocol : UInt8) (replacing : UInt16 → UInt16) :
    checkedStamp source destination protocol offset segment replacing =
      .ok (stamp source destination protocol offset segment replacing) := by
  have blank : (Bytes.patch segment offset [0, 0]).length = segment.length :=
    Bytes.patch_length room
  rw [checkedStamp, Checked.write_ok (show [0, 0].length = 2 from rfl) room, Checked.ok_bind,
    Checksum.checkedPairSum_eq, Checked.ok_bind]
  simp only
  rw [Checked.write_ok (Bytes.ofWord_length _) (by rw [blank]; exact room)]
  rfl

end Transport

namespace UdpDatagram

/-- The datagram with a fresh checksum, unless it has none. -/
def checkedRefreshed (datagram : UdpDatagram) (source destination : Address .v4) :
    Checked UdpDatagram := do
  if (← Checked.word datagram.bytes checksumOffset) = 0 then return datagram
  else return ⟨← Transport.checkedStamp source destination Protocol.udp.number checksumOffset
    datagram.bytes nonzero⟩

/-- The checksum of a datagram that has room for it can be renewed. -/
theorem checkedRefreshed_eq {datagram : UdpDatagram}
    (room : checksumOffset + 2 ≤ datagram.bytes.length) (source destination : Address .v4) :
    datagram.checkedRefreshed source destination =
      .ok (datagram.refreshed source destination) := by
  rw [checkedRefreshed, Checked.word_ok room, Checked.ok_bind, Transport.checkedStamp_eq room,
    refreshed, checksumField]
  split
  · rfl
  · rfl

end UdpDatagram

namespace TcpSegment

/-- Reads a segment of at least the header that it declares. -/
def checkedParse (bytes : Bytes) : Checked (Except Error TcpSegment) :=
  if bytes.length < leastHeader then .ok (.error (.tooShort .tcpSegment))
  else do
    let headerLength := (← Checked.byte bytes 12).toNat / 16 * 4
    if headerLength < leastHeader then return .error .tcpDataOffset
    else if bytes.length < headerLength then return .error .tcpHeaderTruncated
    else return .ok ⟨bytes⟩

/-- The segment with a fresh checksum. -/
def checkedRefreshed (segment : TcpSegment) (source destination : Address .v4) :
    Checked TcpSegment := do
  return ⟨← Transport.checkedStamp source destination Protocol.tcp.number checksumOffset
    segment.bytes id⟩

/-- Whatever is read, no access to it goes wrong. -/
theorem checkedParse_eq (bytes : Bytes) : checkedParse bytes = .ok (parse bytes) := by
  rw [checkedParse, parse]
  by_cases short : bytes.length < leastHeader
  · rw [if_pos short, if_pos short]
  -- Twenty bytes make the fixed part, and the tests on the announced length read no more of it.
  have room : 20 ≤ bytes.length := Nat.le_of_not_lt short
  rw [if_neg short, if_neg short, Checked.byte_ok (by omega), Checked.ok_bind]
  simp only
  generalize (Bytes.byteAt bytes 12).toNat / 16 * 4 = headerLength
  split
  · rfl
  · split
    · rfl
    · rfl

/-- The checksum of a segment that has room for it can be renewed. -/
theorem checkedRefreshed_eq {segment : TcpSegment}
    (room : checksumOffset + 2 ≤ segment.bytes.length) (source destination : Address .v4) :
    segment.checkedRefreshed source destination =
      .ok (segment.refreshed source destination) := by
  rw [checkedRefreshed, Transport.checkedStamp_eq room]
  rfl

end TcpSegment

namespace IcmpMessage

/-- The message type. -/
def checkedKind (message : IcmpMessage) : Checked UInt8 := Checked.byte message.bytes 0

/-- Whether the message asks for an echo. -/
def checkedIsEchoRequest (message : IcmpMessage) : Checked Bool := do
  return (← message.checkedKind) == IcmpType.echoRequest.code

/-- Whether the message is an echo. -/
def checkedIsEchoReply (message : IcmpMessage) : Checked Bool := do
  return (← message.checkedKind) == IcmpType.echoReply.code

/-- The identifier of an echo message. -/
def checkedIdentifier (message : IcmpMessage) : Checked UInt16 := Checked.word message.bytes 4

/-- The message with another identifier and a fresh checksum. -/
def checkedWithIdentifier (message : IcmpMessage) (identifier : UInt16) : Checked IcmpMessage := do
  let bytes ← Checked.write message.bytes 4 2 (Bytes.ofWord identifier)
  return ⟨← Checksum.checkedStamp bytes checksumOffset⟩

/-- The echo of a request. -/
def checkedEchoReply (request : Bytes) : Checked (Except Error Bytes) :=
  if request.length < headerSize then .ok (.error (.tooShort .icmpRequest))
  else do
    let reply ← Checked.write request 0 1 [IcmpType.echoReply.code]
    return .ok (← Checksum.checkedStamp reply checksumOffset)

/-- An error that quotes the header of the offending packet and eight bytes behind it. -/
def checkedError (kind : IcmpType) (code : UInt8) (header payload : Bytes) : Checked Bytes := do
  let quote ← Checked.range payload 0 (min payload.length 8)
  let message := [kind.code, code, 0, 0, 0, 0, 0, 0] ++ header ++ quote
  Checked.write message checksumOffset 2 (Bytes.ofWord (Checksum.ofBytes message))

section Room

variable {message : IcmpMessage} (room : headerSize ≤ message.bytes.length)
include room

/-- The type of a message is there. -/
theorem checkedKind_eq : message.checkedKind = .ok message.kind :=
  Checked.byte_ok (Nat.lt_of_lt_of_le (by decide) room)

/-- It can be told whether a message asks for an echo. -/
theorem checkedIsEchoRequest_eq : message.checkedIsEchoRequest = .ok message.isEchoRequest := by
  rw [checkedIsEchoRequest, checkedKind_eq room]
  rfl

/-- It can be told whether a message is an echo. -/
theorem checkedIsEchoReply_eq : message.checkedIsEchoReply = .ok message.isEchoReply := by
  rw [checkedIsEchoReply, checkedKind_eq room]
  rfl

/-- The identifier of a message is there. -/
theorem checkedIdentifier_eq : message.checkedIdentifier = .ok message.identifier :=
  Checked.word_ok (Nat.le_trans (by decide) room)

/-- The identifier can be replaced. -/
theorem checkedWithIdentifier_eq (identifier : UInt16) :
    message.checkedWithIdentifier identifier = .ok (message.withIdentifier identifier) := by
  have fixed : (8 : Nat) ≤ message.bytes.length := room
  have replaced : (Bytes.patch message.bytes 4 (Bytes.ofWord identifier)).length =
      message.bytes.length := Bytes.patch_word_length (by omega) identifier
  rw [checkedWithIdentifier, Checked.write_ok (Bytes.ofWord_length _) (by omega), Checked.ok_bind,
    Checksum.checkedStamp_eq (by rw [replaced]; exact Nat.le_trans (by decide) room)]
  rfl

end Room

/-- An echo can be made of every request. -/
theorem checkedEchoReply_eq (request : Bytes) :
    checkedEchoReply request = .ok (echoReply request) := by
  rw [checkedEchoReply, echoReply]
  by_cases short : request.length < headerSize
  · rw [if_pos short, if_pos short]
  -- The new type takes the place of the old one, so the checksum finds its room as before.
  have room : (8 : Nat) ≤ request.length := Nat.le_of_not_lt short
  have renamed : (Bytes.patch request 0 [IcmpType.echoReply.code]).length = request.length :=
    Bytes.patch_byte_length (by omega) _
  rw [if_neg short, if_neg short, Checked.write_ok List.length_singleton (by omega),
    Checked.ok_bind,
    Checksum.checkedStamp_eq (by rw [renamed]; exact Nat.le_trans (by decide) room)]
  rfl

/-- An error can be made of every packet. -/
theorem checkedError_eq (kind : IcmpType) (code : UInt8) (header payload : Bytes) :
    checkedError kind code header payload = .ok (error kind code header payload) := by
  have quote : Bytes.slice payload 0 (min payload.length 8) = payload.take 8 := by
    rw [Bytes.slice, List.drop_zero, Nat.min_comm, ← List.take_eq_take_min]
  -- The place of the checksum is empty already.
  have blank : Bytes.patch ([kind.code, code, 0, 0, 0, 0, 0, 0] ++ header ++ payload.take 8)
      checksumOffset [0, 0] = [kind.code, code, 0, 0, 0, 0, 0, 0] ++ header ++ payload.take 8 := rfl
  rw [checkedError, Checked.range_ok (by omega), Checked.ok_bind, quote]
  simp only
  rw [Checked.write_ok (Bytes.ofWord_length _) (error_room kind code header payload), error,
    Checksum.stamp]
  simp only [blank]

end IcmpMessage

namespace Icmpv6Message

/-- The message type. -/
def checkedKind (message : Icmpv6Message) : Checked UInt8 := Checked.byte message.bytes 0

/-- Whether the message asks for an echo. -/
def checkedIsEchoRequest (message : Icmpv6Message) : Checked Bool := do
  return (← message.checkedKind) == Icmpv6Type.echoRequest.code

/-- What follows type, code and checksum. -/
def checkedBody (message : Icmpv6Message) : Checked Bytes :=
  Checked.rest message.bytes headerSize

/-- The message with its checksum filled in. -/
def checkedStamp (source destination : Address .v6) (message : Bytes) : Checked Bytes := do
  let addresses ← Checksum.checkedPairSum source destination
  let sum := addresses + message.length % 0x100000000 / 65536 + message.length % 65536 +
    Protocol.icmpv6.number.toNat
  Checked.write message 2 2
    (Bytes.ofWord (Checksum.continued sum (Bytes.excise message 2 2)))

/-- The echo of a request, with its checksum still zero. -/
def checkedEchoReply (request : Bytes) : Checked (Except Error Bytes) :=
  if request.length < 8 then .ok (.error (.tooShort .icmpv6EchoRequest))
  else do
    let reply ← Checked.write request 0 1 [Icmpv6Type.echoReply.code]
    return .ok (← Checked.write reply 2 2 [0, 0])

/-- An error that quotes as much of the offending packet as fits, with its checksum still zero. -/
def checkedError (kind : Icmpv6Type) (code : UInt8) (packet : Bytes) : Checked Bytes := do
  let quote ← Checked.range packet 0 (min packet.length quoteLimit)
  return [kind.code, code, 0, 0, 0, 0, 0, 0] ++ quote

/-- A packet that carries a message, with the checksum filled in. -/
def checkedEncapsulate (source destination : Address .v6) (hopLimit : UInt8) (message : Bytes) :
    Checked Bytes := do
  let payload ← checkedStamp source destination message
  return Ipv6Draft.encode {
    source
    destination
    hopLimit
    nextHeader := Protocol.icmpv6.number
    payload }

section Room

variable {message : Icmpv6Message} (room : headerSize ≤ message.bytes.length)
include room

/-- The type of a message is there. -/
theorem checkedKind_eq : message.checkedKind = .ok message.kind :=
  Checked.byte_ok (Nat.lt_of_lt_of_le (by decide) room)

/-- It can be told whether a message asks for an echo. -/
theorem checkedIsEchoRequest_eq : message.checkedIsEchoRequest = .ok message.isEchoRequest := by
  rw [checkedIsEchoRequest, checkedKind_eq room]
  rfl

/-- The body of a message is there. -/
theorem checkedBody_eq : message.checkedBody = .ok message.body :=
  Checked.rest_ok room

end Room

/-- A checksum can be filled in where there is room for it. -/
theorem checkedStamp_eq {message : Bytes} (room : 4 ≤ message.length)
    (source destination : Address .v6) :
    checkedStamp source destination message = .ok (stamp source destination message) := by
  rw [checkedStamp, Checksum.checkedPairSum_eq, Checked.ok_bind]
  simp only
  rw [Checked.write_ok (Bytes.ofWord_length _) room]
  rfl

/-- An echo can be made of every request. -/
theorem checkedEchoReply_eq (request : Bytes) :
    checkedEchoReply request = .ok (echoReply request) := by
  rw [checkedEchoReply, echoReply]
  by_cases short : request.length < 8
  · rw [if_pos short, if_pos short]
  -- The new type takes the place of the old one, so the checksum field is where it was.
  have renamed : (Bytes.patch request 0 [Icmpv6Type.echoReply.code]).length = request.length :=
    Bytes.patch_byte_length (by omega) _
  rw [if_neg short, if_neg short, Checked.write_ok List.length_singleton (by omega),
    Checked.ok_bind, Checked.write_ok (show [0, 0].length = 2 from rfl) (by omega)]
  rfl

/-- An error can be made of every packet. -/
theorem checkedError_eq (kind : Icmpv6Type) (code : UInt8) (packet : Bytes) :
    checkedError kind code packet = .ok (error kind code packet) := by
  have quote : Bytes.slice packet 0 (min packet.length quoteLimit) = packet.take quoteLimit := by
    rw [Bytes.slice, List.drop_zero, Nat.min_comm, ← List.take_eq_take_min]
  rw [checkedError, Checked.range_ok (by omega), Checked.ok_bind, quote]
  rfl

/-- A packet can be built around a message with room for a checksum. -/
theorem checkedEncapsulate_eq {message : Bytes} (room : 4 ≤ message.length)
    (source destination : Address .v6) (hopLimit : UInt8) :
    checkedEncapsulate source destination hopLimit message =
      .ok (encapsulate source destination hopLimit message) := by
  rw [checkedEncapsulate, checkedStamp_eq room]
  rfl

end Icmpv6Message

end NetworkLayer
