import NetworkLayer.Address
import NetworkLayer.Error

/-! ARP packets for IPv4 over Ethernet. -/

namespace NetworkLayer

/-- What an ARP packet does. -/
inductive ArpOperation
  | request
  | reply
deriving DecidableEq, Repr

namespace ArpOperation

/-- The code in the packet. -/
def code : ArpOperation → UInt16
  | request => 1
  | reply => 2

/-- The operation of a code. -/
def ofCode? (code : UInt16) : Option ArpOperation :=
  [request, reply].find? (·.code == code)

end ArpOperation

/-- An ARP packet: who asks or answers, and for whom. -/
structure ArpPacket where
  operation : ArpOperation
  senderMac : Mac
  sender : Address .v4
  targetMac : Mac
  target : Address .v4
deriving DecidableEq

namespace ArpPacket

/-- Size of a packet. -/
def size : Nat := 28

/-- The fixed fields: Ethernet, IPv4, and the lengths of their addresses. -/
def preamble : Bytes := [0, 1, 8, 0, 6, 4]

/-- Reads a packet; what follows its 28 bytes is padding. -/
def parse (bytes : Bytes) : Except Error ArpPacket :=
  if bytes.length < size then .error (.tooShort .arpPacket)
  -- The fields are checked in wire order, so the first wrong one is reported.
  else if Bytes.wordAt bytes 0 ≠ 1 then .error .arpHardwareType
  else if Bytes.wordAt bytes 2 ≠ 0x0800 then .error .arpProtocolType
  else if Bytes.byteAt bytes 4 ≠ 6 ∨ Bytes.byteAt bytes 5 ≠ 4 then .error .arpAddressLengths
  else match ArpOperation.ofCode? (Bytes.wordAt bytes 6) with
    | none => .error .arpOperation
    | some operation => .ok {
        operation
        senderMac := Mac.readAt bytes 8
        sender := Address.readAt bytes 14
        targetMac := Mac.readAt bytes 18
        target := Address.readAt bytes 24 }

/-- The bytes of a packet. -/
def encode (packet : ArpPacket) : Bytes :=
  preamble ++ Bytes.ofWord packet.operation.code ++
    packet.senderMac.octets ++ packet.sender.octets ++
    packet.targetMac.octets ++ packet.target.octets

/-- The question who has an address. -/
def request (senderMac : Mac) (sender target : Address .v4) : ArpPacket :=
  -- What is asked for is left zero.
  ⟨.request, senderMac, sender, Mac.ofNat 0, target⟩

/-- The answer to the station that asked. -/
def reply (senderMac : Mac) (sender : Address .v4) (targetMac : Mac) (target : Address .v4) :
    ArpPacket :=
  ⟨.reply, senderMac, sender, targetMac, target⟩

end ArpPacket

end NetworkLayer
