import NetworkLayer.Error
import NetworkLayer.Mac

/-! Ethernet II frames, padded to the least size that the wire allows. -/

namespace NetworkLayer

/-- The payload types that the network layer speaks. -/
inductive EtherType
  | ipv4
  | arp
  | ipv6
deriving DecidableEq, Repr

namespace EtherType

/-- The code in the frame header. -/
def code : EtherType → UInt16
  | ipv4 => 0x0800
  | arp => 0x0806
  | ipv6 => 0x86DD

/-- The payload type of a code. -/
def ofCode? (code : UInt16) : Option EtherType :=
  [ipv4, arp, ipv6].find? (·.code == code)

end EtherType

/-- A received frame; the payload keeps any padding. -/
structure Frame where
  destination : Mac
  source : Mac
  etherType : UInt16
  payload : Bytes
deriving DecidableEq

namespace Frame

/-- Size of the frame header. -/
def headerSize : Nat := 14

/-- Least size of a frame, without its check sequence. -/
def leastSize : Nat := 60

/-- Reads a frame of at least a header. -/
def parse (bytes : Bytes) : Except Error Frame :=
  if bytes.length < headerSize then .error (.tooShort .frame)
  else .ok {
    destination := Mac.readAt bytes 0
    source := Mac.readAt bytes 6
    etherType := Bytes.wordAt bytes 12
    -- A frame does not tell where padding begins; the packet in it does.
    payload := bytes.drop headerSize }

/-- The bytes of a frame, with zeros behind a payload that is too small. -/
def encode (destination source : Mac) (etherType : EtherType) (payload : Bytes) : Bytes :=
  let frame := destination.octets ++ source.octets ++ Bytes.ofWord etherType.code ++ payload
  frame ++ Bytes.zeros (leastSize - frame.length)

end Frame

end NetworkLayer
