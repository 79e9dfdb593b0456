import NetworkLayer.Checksum
import NetworkLayer.Ipv6
import NetworkLayer.Protocol

/-! ICMPv6 messages, whose checksum covers the addresses of the packet that carries them. -/

namespace NetworkLayer

/-- The message types that the network layer speaks. -/
inductive Icmpv6Type
  | destinationUnreachable
  | packetTooBig
  | timeExceeded
  | parameterProblem
  | echoRequest
  | echoReply
  | neighborSolicitation
  | neighborAdvertisement
deriving DecidableEq, Repr

namespace Icmpv6Type

/-- The code in the message. -/
def code : Icmpv6Type → UInt8
  | destinationUnreachable => 1
  | packetTooBig => 2
  | timeExceeded => 3
  | parameterProblem => 4
  | echoRequest => 128
  | echoReply => 129
  | neighborSolicitation => 135
  | neighborAdvertisement => 136

/-- The type of a code. -/
def ofCode? (code : UInt8) : Option Icmpv6Type :=
  [destinationUnreachable, packetTooBig, timeExceeded, parameterProblem, echoRequest, echoReply,
    neighborSolicitation, neighborAdvertisement].find? (·.code == code)

/-- Whether a message of this type reports an error, which never calls for another one. -/
def isError (code : UInt8) : Bool := code < 128

end Icmpv6Type

/-- An ICMPv6 message of at least four bytes. -/
structure Icmpv6Message where
  bytes : Bytes
deriving DecidableEq

namespace Icmpv6Message

/-- Size of the part that all messages have. -/
def headerSize : Nat := 4

/-- An error quotes no more of a packet than fits the least link size of 1280 bytes. -/
def quoteLimit : Nat := 1232

/-- Code of Destination Unreachable for a protocol that nothing listens to. -/
def addressUnreachable : UInt8 := 3

/-- Code of Time Exceeded for a hop limit used up on the way. -/
def hopLimitExceeded : UInt8 := 0

/-- Reads a message of at least a header. -/
def parse (bytes : Bytes) : Except Error Icmpv6Message :=
  if bytes.length < headerSize then .error (.tooShort .icmpv6Packet) else .ok ⟨bytes⟩

/-- The message type. -/
def kind (message : Icmpv6Message) : UInt8 := Bytes.byteAt message.bytes 0

/-- The code within the type. -/
def code (message : Icmpv6Message) : UInt8 := Bytes.byteAt message.bytes 1

/-- The checksum field. -/
def checksumField (message : Icmpv6Message) : UInt16 := Bytes.wordAt message.bytes 2

/-- What follows type, code and checksum. -/
def body (message : Icmpv6Message) : Bytes := message.bytes.drop headerSize

/-- Whether the message asks for an echo. -/
def isEchoRequest (message : Icmpv6Message) : Bool := message.kind == Icmpv6Type.echoRequest.code

/-- The sum of the pseudo-header for a message of the given length. -/
def pseudoSum (source destination : Address .v6) (length : Nat) : Nat :=
  -- The length is a 32-bit field, so it counts as two words.
  Checksum.wordSum 0 (source.octets ++ destination.octets) +
    length % 0x100000000 / 65536 + length % 65536 + Protocol.icmpv6.number.toNat

/-- The checksum of a message between two addresses; its own checksum field counts as zero. -/
def checksum (source destination : Address .v6) (message : Bytes) : UInt16 :=
  Checksum.continued (pseudoSum source destination message.length)
    -- Leaving out the whole word at offset 2 adds as little as a zero there.
    (Bytes.excise message 2 2)

/-- The message with its checksum filled in. -/
def stamp (source destination : Address .v6) (message : Bytes) : Bytes :=
  Bytes.patch message 2 (Bytes.ofWord (checksum source destination message))

/-- Whether the checksum of a received message holds. -/
def verifies (source destination : Address .v6) (message : Bytes) : Bool :=
  -- With the checksum itself in the sum, every bit is one.
  Checksum.onesSum (pseudoSum source destination message.length) message == 0xFFFF

/-- The echo of a request, with its checksum still zero. -/
def echoReply (request : Bytes) : Except Error Bytes :=
  -- An echo also has an identifier and a sequence number.
  if request.length < 8 then .error (.tooShort .icmpv6EchoRequest)
  else .ok (Bytes.patch (Bytes.patch request 0 [Icmpv6Type.echoReply.code]) 2 [0, 0])

/-- An error that quotes as much of the offending packet as fits, with its checksum still zero. -/
def error (kind : Icmpv6Type) (code : UInt8) (packet : Bytes) : Bytes :=
  [kind.code, code, 0, 0, 0, 0, 0, 0] ++ packet.take quoteLimit

/-- A packet that carries a message, with the checksum filled in. -/
def encapsulate (source destination : Address .v6) (hopLimit : UInt8) (message : Bytes) : Bytes :=
  Ipv6Draft.encode {
    source
    destination
    hopLimit
    nextHeader := Protocol.icmpv6.number
    payload := stamp source destination message }

end Icmpv6Message

end NetworkLayer
