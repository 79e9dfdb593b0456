import NetworkLayer.Interface

/-! Nodes: the attached interfaces, the routing table, and which addresses are the node's own. -/

namespace NetworkLayer

/-- How a node is set up. -/
structure NodeSettings where
  forwarding : Bool := false
  /-- Whether undeliverable packets are reported to their source. -/
  reportsUnreachable : Bool := true
  /-- Whether an IPv4 node ignores echo requests to broadcast and multicast addresses. -/
  discardsGroupEcho : Bool := false
deriving DecidableEq

/-- A node of one family. -/
structure Node (family : Family) where
  settings : NodeSettings
  loopback : InterfaceId
  /-- In the order in which they were attached. -/
  attached : List InterfaceId
  table : RoutingTable family
  /-- The upper-layer protocols that something on the node takes. -/
  handled : List UInt8
deriving DecidableEq

/-- A node without interfaces but its loopback. -/
def Node.create {family : Family} (settings : NodeSettings) (loopback : InterfaceId) :
    Node family :=
  ⟨settings, loopback, [], .empty, []⟩

/-- The node with something that takes an upper-layer protocol. -/
def Node.listen {family : Family} (node : Node family) (protocol : UInt8) : Node family :=
  { node with handled := protocol :: node.handled }

/-- The node without what takes an upper-layer protocol. -/
def Node.unlisten {family : Family} (node : Node family) (protocol : UInt8) : Node family :=
  { node with handled := node.handled.filter (· ≠ protocol) }

/-- A node with the interfaces around it. -/
structure Station (family : Family) where
  node : Node family
  interfaces : Interfaces family
deriving DecidableEq

namespace Station

variable {family : Family}

/-- The attached interfaces. -/
def attached (station : Station family) : List (Interface family) :=
  station.node.attached.map station.interfaces.at

/-- The identity of the first attached interface of a name. -/
def named? (station : Station family) (name : String) : Option InterfaceId :=
  station.node.attached.find? fun id => (station.interfaces.at id).name == name

/-- Whether an address is the node's, groups and the loopback prefix included. -/
def hasAddress (station : Station family) (address : Address family) : Bool :=
  (station.interfaces.at station.node.loopback).hasAddress address ||
    station.attached.any (·.hasAddress address)

/-- Whether a unicast address is the node's, the loopback prefix included. -/
def ownsUnicast (station : Station family) (address : Address family) : Bool :=
  (Prefix.loopback family).contains address ||
    station.attached.any fun interface =>
      interface.addresses.any fun entry => entry.address == address && entry.isUnicast

/-- The first address of the first interface. -/
def firstAddress? (station : Station family) : Option (Address family) := do
  let interface ← station.attached.head?
  let entry ← interface.addresses.head?
  return entry.address

/-- The addresses of the attached interfaces, each once. -/
def addresses (station : Station family) : List (Address family) :=
  (station.attached.flatMap fun interface => interface.addresses.map (·.address)).eraseDups

/-- The route for an address. -/
def routeFor (station : Station family) (address : Address family) : Option (Route family) :=
  station.node.table.routeFor address

/-- The own address on a route: the unicast one whose prefix contains the next hop or the
destination, and else the first unicast one. -/
def sourceOn? (station : Station family) (route : Route family) (destination : Address family) :
    Option (Address family) :=
  let nextHop := route.nextHopFor destination
  let unicast := (station.interfaces.at route.interface).addresses.filter (·.isUnicast)
  -- A gateway may lie outside the prefixes of the destination, and the other way round.
  let near := unicast.find? fun entry => entry.reaches nextHop || entry.reaches destination
  (near <|> unicast.head?).map (·.address)

/-- The source of packets that start here: the loopback address within the loopback prefix, the
node's first address to a group, and else the own address on the route. -/
def sourceFor? (station : Station family) (destination : Address family) :
    Option (Address family) :=
  -- What stays on the node never shows an address of a link.
  if (Prefix.loopback family).contains destination then some (.loopback family)
  else if destination.isMulticast then station.firstAddress?
  else do station.sourceOn? (← station.routeFor destination) destination

end Station

end NetworkLayer
