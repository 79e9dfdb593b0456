import NetworkLayer.Node.Basic

/-!
Attaching interfaces to a node and giving them addresses. Each address with an on-link prefix has
its connected route, and each interface belongs to the groups that go with its addresses.
-/

namespace NetworkLayer

namespace Address

variable {family : Family}

/-- The groups that come with a unicast address: for IPv4 the broadcast addresses and all hosts,
for IPv6 the solicited-node group and all nodes. The first list goes in front of the route. -/
def companions {family : Family} (address : Address family) (net : Option (Prefix family)) :
    List (InterfaceAddress family) :=
  match family with
  | .v4 =>
    -- A prefix of a single host has nobody to broadcast to.
    ((net.filter (·.length < 32)).map fun net => .broadcast net.directedBroadcast).toList ++
      [.broadcast limitedBroadcast, .multicast allHosts]
  | .v6 =>
    [.multicast address.solicitedNode, .multicast allNodesInterface, .multicast allNodesLink]

end Address

namespace Station

variable {family : Family}

/-- The station with an interface changed. -/
def modify (station : Station family) (id : InterfaceId)
    (change : Interface family → Interface family) : Station family :=
  { station with interfaces := station.interfaces.modify id change }

/-- The station with its routing table changed. -/
def withTable (station : Station family) (table : RoutingTable family) : Station family :=
  { station with node := { station.node with table } }

/-- The gauge of the routes. -/
def routesTally (station : Station family) : Tally :=
  .routes station.node.table.routes.length

/-- The name of the attached interface at an index. -/
def interfaceName (index : Nat) : String := "ni" ++ Text.decimal index

/-- Names the attached interfaces by their place. -/
def renamed (station : Station family) : Station family × List Tally :=
  -- A name follows the place, so names move up when an interface goes.
  let places := station.node.attached.zipIdx
  let station := places.foldl (fun station (id, index) =>
    station.modify id fun interface => { interface with name := interfaceName index }) station
  (station, places.map fun (_, index) => .register (interfaceName index))

/-- Puts the route of an on-link prefix in place, unless there is a route to it already. -/
def installRoute (station : Station family) (id : InterfaceId) (net : Prefix family) :
    Station family × List Tally :=
  let table := station.node.table
  -- A route set up by the operator serves as well as a connected one.
  let present := table.routes.any fun route =>
    route.destination == .net net && route.interface == id
  let station := if present then station else station.withTable (table.add (.connected net id))
  (station, [station.routesTally])

/-- Puts in place what goes with a unicast address of an interface. -/
def install (station : Station family) (id : InterfaceId) (entry : InterfaceAddress family) :
    Station family × List Tally :=
  let station := (entry.address.companions entry.net?).foldl
    (fun station group => station.modify id (·.addAddress group)) station
  match entry.net? with
  | some net => station.installRoute id net
  | none => (station, [])

/-- Attaches an interface and puts in place what goes with the addresses that it has. -/
def attach (station : Station family) (node : NodeId) (id : InterfaceId) :
    Station family × List Tally :=
  -- Installing adds groups, so the addresses are taken down before.
  let entries := (station.interfaces.at id).addresses.filter (·.isUnicast)
  let listening := station.modify id (·.addListener (.node node))
  let (station, names) := renamed { listening with
    node := { listening.node with attached := listening.node.attached ++ [id] } }
  entries.foldl (fun (station, tallies) entry =>
    let (station, more) := station.install id entry
    (station, tallies ++ more)) (station, names)

/-- Whether an interface was attached, and the station without it and its routes. -/
def detach (station : Station family) (node : NodeId) (id : InterfaceId) :
    Bool × Station family × List Tally :=
  if station.node.attached.contains id then
    let silent := station.modify id (·.removeListener (.node node))
    let detached := { silent with node := { silent.node with
      attached := silent.node.attached.erase id
      table := silent.node.table.removeInterface id } }
    let (station, names) := detached.renamed
    (true, station, station.routesTally :: names)
  else (false, station, [])

/-- Gives an interface an address and puts in place what goes with it. -/
def addAddress (station : Station family) (id : InterfaceId) (entry : InterfaceAddress family) :
    Station family × List Tally :=
  let station := station.modify id (·.addAddress entry)
  if entry.isUnicast then station.install id entry else (station, [])

/-- Takes the directed broadcast address of an IPv4 prefix from an interface. -/
def dropBroadcast {family : Family} (station : Station family) (id : InterfaceId)
    (net : Prefix family) : Station family :=
  match family with
  | .v4 => if net.length < 32 then station.modify id (·.removeAddress net.directedBroadcast)
    else station
  | .v6 => station

/-- Takes back the prefix of a removed address, unless another address still has it. -/
def retract (station : Station family) (id : InterfaceId) (net : Prefix family) :
    Station family × List Tally :=
  -- Two addresses on one prefix share its route and its broadcast address.
  if (station.interfaces.at id).addresses.any fun entry => entry.net? == some net then
    (station, [])
  else
    let station := station.dropBroadcast id net
    let station := station.withTable (station.node.table.without fun route =>
      route.origin == .connected && route.destination == .net net && route.interface == id)
    (station, [station.routesTally])

/-- Leaves the solicited-node group of a removed IPv6 address, unless another one maps to it. -/
def leaveGroup {family : Family} (station : Station family) (id : InterfaceId)
    (address : Address family) : Station family :=
  match family with
  | .v4 => station
  | .v6 =>
    let group := address.solicitedNode
    let used := (station.interfaces.at id).addresses.any fun entry =>
      entry.isUnicast && entry.address.solicitedNode == group
    -- Addresses that end in the same 24 bits share a group.
    if used then station else station.modify id (·.removeAddress group)

/-- Whether an interface had an address, and the station without its first entry for it and what
went with that. -/
def removeAddress (station : Station family) (id : InterfaceId) (address : Address family) :
    Bool × Station family × List Tally :=
  match (station.interfaces.at id).addresses.find? (·.address == address) with
  | none => (false, station, [])
  | some entry =>
    let station := (station.modify id (·.removeAddress address)).leaveGroup id address
    match entry.net? with
    -- What the prefix brought goes only with the last address on it.
    | some net =>
      let (station, tallies) := station.retract id net
      (true, station, tallies)
    | none => (true, station, [])

/-- Detaches and closes every interface. -/
def close (station : Station family) (node : NodeId) : Station family × List Tally :=
  let closed := station.node.attached.foldl (fun station id =>
    station.modify id fun interface => (interface.removeListener (.node node)).close) station
  -- The loopback stays, but nobody hears it any more.
  let silent := closed.modify station.node.loopback (·.removeListener (.node node))
  let station := { silent with node := { silent.node with
    attached := []
    table := .empty
    handled := [] } }
  (station, [station.routesTally])

end Station

end NetworkLayer
