import NetworkLayer.Checksum
import NetworkLayer.Error

/-! ICMP messages: echo, and errors that quote the packet they are about. -/

namespace NetworkLayer

/-- The message types that the network layer speaks. -/
inductive IcmpType
  | echoReply
  | destinationUnreachable
  | echoRequest
  | timeExceeded
deriving DecidableEq, Repr

namespace IcmpType

/-- The code in the message. -/
def code : IcmpType → UInt8
  | echoReply => 0
  | destinationUnreachable => 3
  | echoRequest => 8
  | timeExceeded => 11

/-- The type of a code. -/
def ofCode? (code : UInt8) : Option IcmpType :=
  [echoReply, destinationUnreachable, echoRequest, timeExceeded].find? (·.code == code)

/-- Whether a message of this type reports an error, which never calls for another one. -/
def isError (code : UInt8) : Bool :=
  [3, 4, 5, 11, 12].contains code

end IcmpType

/-- An ICMP message of at least eight bytes. -/
structure IcmpMessage where
  bytes : Bytes
deriving DecidableEq

namespace IcmpMessage

/-- Size of the header. -/
def headerSize : Nat := 8

/-- Where the checksum stands. -/
def checksumOffset : Nat := 2

/-- Code of Destination Unreachable for a protocol that nothing listens to. -/
def protocolUnreachable : UInt8 := 2

/-- Code of Time Exceeded for a time to live used up on the way. -/
def ttlExceeded : UInt8 := 0

/-- Reads a message of at least a header. -/
def parse (bytes : Bytes) : Except Error IcmpMessage :=
  if bytes.length < headerSize then .error (.tooShort .icmpPacket) else .ok ⟨bytes⟩

/-- The message type. -/
def kind (message : IcmpMessage) : UInt8 := Bytes.byteAt message.bytes 0

/-- The code within the type. -/
def code (message : IcmpMessage) : UInt8 := Bytes.byteAt message.bytes 1

/-- The identifier of an echo message. -/
def identifier (message : IcmpMessage) : UInt16 := Bytes.wordAt message.bytes 4

/-- The sequence number of an echo message. -/
def sequence (message : IcmpMessage) : UInt16 := Bytes.wordAt message.bytes 6

/-- What follows the header. -/
def payload (message : IcmpMessage) : Bytes := message.bytes.drop headerSize

/-- Whether the checksum holds. -/
def verifies (message : IcmpMessage) : Bool := Checksum.verifies message.bytes

/-- Whether the message asks for an echo. -/
def isEchoRequest (message : IcmpMessage) : Bool := message.kind == IcmpType.echoRequest.code

/-- Whether the message is an echo. -/
def isEchoReply (message : IcmpMessage) : Bool := message.kind == IcmpType.echoReply.code

/-- The message with a fresh checksum. -/
def refreshed (message : IcmpMessage) : IcmpMessage :=
  ⟨Checksum.stamp message.bytes checksumOffset⟩

/-- The message with another identifier and a fresh checksum. -/
def withIdentifier (message : IcmpMessage) (identifier : UInt16) : IcmpMessage :=
  refreshed ⟨Bytes.patch message.bytes 4 (Bytes.ofWord identifier)⟩

/-- The request for an echo. -/
def echoRequest (identifier sequence : UInt16) (payload : Bytes) : Bytes :=
  Checksum.stamp
    ([IcmpType.echoRequest.code, 0, 0, 0] ++ Bytes.ofWord identifier ++ Bytes.ofWord sequence ++
      payload)
    checksumOffset

/-- The echo of a request: the same bytes but for type and checksum. -/
def echoReply (request : Bytes) : Except Error Bytes :=
  if request.length < headerSize then .error (.tooShort .icmpRequest)
  -- Identifier, sequence and payload go back as they came.
  else .ok (Checksum.stamp (Bytes.patch request 0 [IcmpType.echoReply.code]) checksumOffset)

/-- An error that quotes the header of the offending packet and eight bytes behind it. -/
def error (kind : IcmpType) (code : UInt8) (header payload : Bytes) : Bytes :=
  -- The quote is enough for the sender to tell which packet it was.
  Checksum.stamp ([kind.code, code, 0, 0, 0, 0, 0, 0] ++ header ++ payload.take 8) checksumOffset

end IcmpMessage

end NetworkLayer
