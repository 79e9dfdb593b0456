/-! The upper-layer protocols that the network layer knows. -/

namespace NetworkLayer

/-- A protocol carried in a packet. -/
inductive Protocol
  | icmp
  | tcp
  | udp
  | icmpv6
deriving DecidableEq, Repr

namespace Protocol

/-- The number in the packet header. -/
def number : Protocol → UInt8
  | icmp => 1
  | tcp => 6
  | udp => 17
  | icmpv6 => 58

/-- The protocol of a number. -/
def ofNumber? (number : UInt8) : Option Protocol :=
  [icmp, tcp, udp, icmpv6].find? (·.number == number)

end Protocol

end NetworkLayer
