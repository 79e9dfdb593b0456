import NetworkLayer.Bytes
import NetworkLayer.Family
import NetworkLayer.Mac

/-! Network addresses of both families as bounded numbers, with their classes. -/

namespace NetworkLayer

/-- A network address: a number of the family's width. -/
structure Address (family : Family) where
  number : Nat
  bound : number < family.size
deriving DecidableEq

namespace Address

variable {family : Family}

/-- The address with the low bits of a number. -/
def ofNat (number : Nat) : Address family :=
  ⟨number % family.size, Nat.mod_lt _ family.size_pos⟩

/-- The octets in transmission order. -/
def octets (address : Address family) : Bytes :=
  Bytes.ofValue (family.bits / 8) address.number

/-- The address whose octets stand at `offset`. -/
def readAt (bytes : Bytes) (offset : Nat) : Address family :=
  ofNat (Bytes.value (Bytes.slice bytes offset (family.bits / 8)))

/-- The all-zero address. -/
def unspecified : Address family := ofNat 0

instance : Inhabited (Address family) := ⟨unspecified⟩

/-- The first loopback address, `127.0.0.1` or `::1`. -/
def loopback : (family : Family) → Address family
  | .v4 => ofNat 0x7F000001
  | .v6 => ofNat 1

/-- Whether the address names a group: `224.0.0.0/4` or `ff00::/8`. -/
def isMulticast {family : Family} (address : Address family) : Bool :=
  match family with
  | .v4 => address.number >>> 28 == 0xE
  | .v6 => address.number >>> 120 == 0xFF

/-- Whether the address is a loopback one: `127.0.0.0/8` or `::1`. -/
def isLoopback {family : Family} (address : Address family) : Bool :=
  match family with
  | .v4 => address.number >>> 24 == 127
  | .v6 => address.number == 1

/-- Whether the address is `255.255.255.255`; IPv6 has no broadcast. -/
def isLimitedBroadcast {family : Family} (address : Address family) : Bool :=
  match family with
  | .v4 => address.number == 0xFFFFFFFF
  | .v6 => false

/-- Whether a packet to the address is for every station rather than for one. -/
def isGroup (address : Address family) : Bool :=
  address.isMulticast || address.isLimitedBroadcast

/-- The link-layer group of a multicast address: 23 or 32 of its low bits under a fixed start. -/
def multicastMac {family : Family} (address : Address family) : Mac :=
  match family with
  -- Only 23 bits fit under the IPv4 start, so 32 groups share one link-layer group.
  | .v4 => Mac.ofNat (0x01005E000000 + address.number % 0x800000)
  | .v6 => Mac.ofNat (0x333300000000 + address.number % 0x100000000)

/-- `255.255.255.255`. -/
def limitedBroadcast : Address .v4 := ofNat 0xFFFFFFFF

/-- `224.0.0.1`, the group of all hosts. -/
def allHosts : Address .v4 := ofNat 0xE0000001

/-- `ff01::1`, the group of all nodes within the interface. -/
def allNodesInterface : Address .v6 := ofNat (0xFF01 <<< 112 + 1)

/-- `ff02::1`, the group of all nodes on the link. -/
def allNodesLink : Address .v6 := ofNat (0xFF02 <<< 112 + 1)

/-- The solicited-node group `ff02::1:ffXX:XXXX` with the address's 24 low bits. -/
def solicitedNode (address : Address .v6) : Address .v6 :=
  ofNat (0xFF02 <<< 112 + 0x1FF000000 + address.number % 0x1000000)

end Address

end NetworkLayer
