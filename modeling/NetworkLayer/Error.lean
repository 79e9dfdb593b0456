import NetworkLayer.Family
import NetworkLayer.Text.Numeral

/-! Why an operation of the network layer is refused, and the wording of each cause. -/

namespace NetworkLayer

/-- A protocol data unit that can arrive cut short. -/
inductive DataUnit
  | frame
  | arpPacket
  | ipv4Packet
  | ipv6Packet
  | icmpPacket
  | icmpRequest
  | icmpv6Packet
  | icmpv6EchoRequest
  | neighborSolicitation
  | neighborAdvertisement
  | udpDatagram
  | tcpSegment
deriving DecidableEq, Repr

/-- The name of a data unit in messages. -/
def DataUnit.label : DataUnit → String
  | frame => "frame"
  | arpPacket => "ARP packet"
  | ipv4Packet => "IPv4 packet"
  | ipv6Packet => "IPv6 packet"
  | icmpPacket => "ICMP packet"
  | icmpRequest => "ICMP request"
  | icmpv6Packet => "ICMPv6 packet"
  | icmpv6EchoRequest => "ICMPv6 echo request"
  | neighborSolicitation => "Neighbor Solicitation"
  | neighborAdvertisement => "Neighbor Advertisement"
  | udpDatagram => "UDP datagram"
  | tcpSegment => "TCP segment"

/-- The broad kind of a refusal. -/
inductive ErrorKind
  | device
  | config
  | parse
  | invalidPrefix
  | interfaceNotFound
  | invalidPacket
deriving DecidableEq, Repr

/-- The cause of a refusal. -/
inductive Error
  /-- The data unit is shorter than its fixed header. -/
  | tooShort (what : DataUnit)
  /-- An ARP packet is for another link type. -/
  | arpHardwareType
  /-- An ARP packet is for another network protocol. -/
  | arpProtocolType
  /-- An ARP packet declares other address lengths than six and four. -/
  | arpAddressLengths
  /-- An ARP packet is neither a request nor a reply. -/
  | arpOperation
  /-- The version nibble is not the one of the family. -/
  | version (family : Family)
  /-- The IPv4 header length is too small or runs past the data. -/
  | ipv4HeaderTruncated
  /-- The IPv4 total length lies outside the header and the data. -/
  | ipv4TotalLength (declared available : Nat)
  /-- The IPv6 payload length runs past the data. -/
  | ipv6PayloadLength (declared available : Nat)
  /-- An IPv6 extension header has no room for its first two bytes. -/
  | extensionTruncated
  /-- An IPv6 extension header runs past the data. -/
  | extensionBodyTruncated (kind : UInt8)
  /-- The TCP data offset lies inside the fixed header. -/
  | tcpDataOffset
  /-- The TCP header runs past the data. -/
  | tcpHeaderTruncated
  /-- A text is not an address of the family. -/
  | addressText (family : Family) (text : String)
  /-- A text is not a length. -/
  | prefixLengthText (text : String)
  /-- A text is not a gateway address of the family. -/
  | gatewayText (family : Family) (text : String)
  /-- The length is beyond the address width, or bits past it are set. -/
  | invalidPrefix (address : String) (length : Nat)
  /-- No interface has the name. -/
  | interfaceNotFound (name : String)
  /-- No route leads to the next hop. -/
  | nextHopUnreachable (nextHop : String)
  /-- Both sides of a translator are one interface. -/
  | translatorSides
  /-- The port range of a translator is empty or starts at zero. -/
  | portRange (first last : UInt16)
  /-- The external interface of a translator has no address to translate to. -/
  | noExternalAddress (interface : String)
  /-- Static mappings are for UDP and TCP. -/
  | staticProtocol
  /-- The configured link address of an interface is malformed. -/
  | interfaceMac (interface text : String)
  /-- A static route names neither a gateway nor an interface. -/
  | routeTarget (destination : String)
  /-- A configuration text is not well formed or does not have the expected shape. -/
  | configText
  /-- A device could not be opened. -/
  | device (reason : String)
deriving DecidableEq, Repr

namespace Error

/-- The kind of a cause. -/
def kind : Error → ErrorKind
  | tooShort _ | arpHardwareType | arpProtocolType | arpAddressLengths | arpOperation => .parse
  | version _ => .invalidPacket
  | ipv4HeaderTruncated | ipv4TotalLength .. | ipv6PayloadLength .. => .parse
  | extensionTruncated | extensionBodyTruncated _ | tcpDataOffset | tcpHeaderTruncated => .parse
  | addressText .. | prefixLengthText _ | gatewayText .. => .parse
  | invalidPrefix .. => .invalidPrefix
  | interfaceNotFound _ => .interfaceNotFound
  | nextHopUnreachable _ | translatorSides | portRange .. | noExternalAddress _ => .config
  | staticProtocol | interfaceMac .. | routeTarget _ | configText => .config
  | device _ => .device

/-- The wording of a cause, without its kind. -/
def detail : Error → String
  | tooShort what => what.label ++ " too short"
  | arpHardwareType => "unsupported hardware type"
  | arpProtocolType => "unsupported protocol type"
  | arpAddressLengths => "invalid ARP address lengths"
  | arpOperation => "invalid ARP operation"
  | version .v4 => "not an IPv4 packet"
  | version .v6 => "not an IPv6 packet"
  | ipv4HeaderTruncated => "IPv4 header truncated"
  | ipv4TotalLength declared available =>
    "IPv4 total length " ++ Text.decimal declared ++ " does not fit buffer of " ++
      Text.decimal available
  | ipv6PayloadLength declared available =>
    "IPv6 payload length " ++ Text.decimal declared ++ " exceeds buffer of " ++
      Text.decimal available
  | extensionTruncated => "IPv6 extension header truncated"
  | extensionBodyTruncated kind =>
    "IPv6 extension header " ++ Text.decimal kind.toNat ++ " truncated"
  | tcpDataOffset => "TCP data offset too small"
  | tcpHeaderTruncated => "TCP header truncated"
  | addressText family text => "invalid " ++ family.label ++ " address: " ++ text
  | prefixLengthText text => "invalid prefix length: " ++ text
  | gatewayText family text => "invalid " ++ family.label ++ " gateway: " ++ text
  | invalidPrefix address length => address ++ "/" ++ Text.decimal length
  | interfaceNotFound name => name
  | nextHopUnreachable nextHop => "next hop " ++ nextHop ++ " is not reachable"
  | translatorSides => "nat internal and external interfaces must differ"
  | portRange first last =>
    "invalid nat port range " ++ Text.decimal first.toNat ++ "-" ++ Text.decimal last.toNat
  | noExternalAddress interface => "external interface " ++ interface ++ " has no unicast address"
  | staticProtocol => "static mappings support udp and tcp only"
  | interfaceMac interface text => "interfaces." ++ interface ++ ": invalid mac " ++ text
  | routeTarget destination => "route " ++ destination ++ " needs a gateway or an interface"
  | configText => "not a well-formed configuration"
  | device reason => reason

/-- The message of a cause. -/
def message (error : Error) : String :=
  match error.kind with
  | .device => "I/O error: " ++ error.detail
  | .config => "config error: " ++ error.detail
  | .parse => "parse error: " ++ error.detail
  | .invalidPrefix => "invalid prefix " ++ error.detail
  | .interfaceNotFound => "interface " ++ error.detail ++ " not found"
  | .invalidPacket => "invalid packet: " ++ error.detail

end Error

end NetworkLayer
