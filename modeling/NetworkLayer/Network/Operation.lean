import NetworkLayer.Network.Schedule
import NetworkLayer.Node.Configuration

/-!
What an operator does to a network: setting up links, nodes, interfaces, ports and policies,
letting go of them, and putting packets and frames in.
-/

namespace NetworkLayer.Network

variable {family : Family}

/-- A new link on a prefix. -/
def addLink (network : Network) (net : Prefix family) : LinkId × Network :=
  let (id, network) := network.newId
  (id, network.onSide family fun side => { side with links := side.links.insert id (.create net) })

/-- A link in use. -/
def link? (network : Network) (family : Family) (id : LinkId) : Option (Link family) :=
  (network.side family).links.get? id

/-- The network with a link changed. -/
def onLinkState (network : Network) (family : Family) (id : LinkId)
    (change : Link family → Link family) : Network :=
  network.onSide family fun side => { side with links := side.links.modify id change }

/-- The next address of the pool of a link. -/
def nextAddress (network : Network) (family : Family) (id : LinkId) :
    Option (InterfaceAddress family) × Network :=
  match network.link? family id with
  | none => (none, network)
  | some link =>
    let (entry, link) := link.nextAddress
    (entry, network.onLinkState family id fun _ => link)

/-- A new interface that an operator holds. -/
def addInterface (network : Network) (family : Family) (interface : Interface family) :
    InterfaceId × Network :=
  let (id, network) := network.newId
  (id, network.onSide family fun side =>
    { side with
      interfaces := side.interfaces.insert id interface
      keptInterfaces := side.keptInterfaces ++ [id] })

/-- A new interface on a link. -/
def addLinkInterface (network : Network) (family : Family) (link : LinkId)
    (entry : Option (InterfaceAddress family)) : InterfaceId × Network :=
  let (id, network) := network.addInterface family (.onLink link entry)
  (id, network.onLinkState family link fun link =>
    { link with members := link.members ++ [id] })

/-- A new set of metrics. -/
def addRegistry (network : Network) : RegistryId × Network :=
  let (id, network) := network.newId
  (id, { network with registries := network.registries.insert id .empty })

/-- A new node that an operator holds, with plain routing. -/
def addNode (network : Network) (family : Family) (settings : NodeSettings)
    (registry : RegistryId) : NodeId × Network :=
  let (id, network) := network.newId
  -- Every node has a loopback, whose only holder it is.
  let (loopback, network) := network.newId
  let (policy, network) := network.newId
  (id, network.onSide family fun side =>
    { side with
      interfaces := side.interfaces.insert loopback (Interface.loopback.addListener (.node id))
      policies := side.policies.insert policy ⟨.plain, id, registry⟩
      nodes := side.nodes.insert id ⟨.create settings loopback, policy, registry⟩
      keptNodes := side.keptNodes ++ [id] })

/-- A node with the interfaces around it. -/
def station? (network : Network) (family : Family) (id : NodeId) : Option (Station family) :=
  ((network.side family).nodes.get? id).map fun hosted =>
    ⟨hosted.node, (network.side family).interfaces⟩

/-- The registry that a node counts in. -/
def registry? (network : Network) (family : Family) (id : NodeId) : Option RegistryId :=
  ((network.side family).nodes.get? id).map (·.registry)

/-- Configures a node and its interfaces. -/
def configure {α : Type} [Inhabited α] (network : Network) (family : Family) (id : NodeId)
    (step : Station family → α × Station family × List Tally) : α × Network :=
  let side := network.side family
  match side.nodes.get? id with
  | none => (default, network)
  | some hosted =>
    let (answer, station, tallies) := step ⟨hosted.node, side.interfaces⟩
    let network := network.onSide family fun side =>
      { side with
        interfaces := station.interfaces
        nodes := side.nodes.insert id { hosted with node := station.node } }
    (answer, network.record hosted.registry tallies)

/-- The network with a node changed. -/
def onNode (network : Network) (family : Family) (id : NodeId)
    (change : Node family → Node family) : Network :=
  network.onSide family fun side =>
    { side with nodes := side.nodes.modify id fun hosted =>
      { hosted with node := change hosted.node } }

/-- Lets go of an interface. -/
def releaseInterface (network : Network) (family : Family) (id : InterfaceId) : Network :=
  network.onSide family fun side =>
    { side with keptInterfaces := side.keptInterfaces.erase id }

/-- Lets go of a node. -/
def releaseNode (network : Network) (family : Family) (id : NodeId) : Network :=
  network.onSide family fun side =>
    { side with keptNodes := side.keptNodes.erase id }

/-- A new tap on an interface. -/
def addTap (network : Network) (family : Family) (id : InterfaceId) (promiscuous : Bool) :
    TapId × Network :=
  let (tap, network) := network.newId
  let network := network.onSide family fun side =>
    { side with taps := side.taps ++ [tap] }
  (tap, network.onInterface family id fun interface =>
    if promiscuous then interface.addPromiscuous (.tap tap) else interface.addListener (.tap tap))

/-- Takes a tap off the interface that it is on. -/
def detachTap (network : Network) (family : Family) (tap : TapId) : Network :=
  network.onSide family fun side =>
    { side with interfaces := ⟨side.interfaces.entries.map fun (id, interface) =>
      (id, (interface.removeListener (.tap tap)).removePromiscuous (.tap tap))⟩ }

/-- Lets go of a tap, which hears nothing any more. -/
def releaseTap (network : Network) (family : Family) (tap : TapId) : Network :=
  network.onSide family fun side => { side with taps := side.taps.erase tap }

/-- Gives a node a policy. -/
def setPolicy (network : Network) (node : NodeId) (policy : Policy family) :
    PolicyId × Network :=
  let (id, network) := network.newId
  (id, network.onSide family fun side =>
    match side.nodes.get? node with
    | none => side
    | some hosted =>
      { side with
        policies := side.policies.insert id ⟨policy, node, hosted.registry⟩
        nodes := side.nodes.insert node { hosted with policy := id } })

/-- Makes a node a router with a translator between two interfaces, which an operator holds. -/
def installTranslator (network : Network) (node : NodeId) (internal external : InterfaceId)
    (config : TranslatorConfig) : Except Error (PolicyId × Network) := do
  let sideOf := fun id =>
    let interface := network.interface .v4 id
    (⟨id, interface.name, interface.addresses⟩ : Translator.Side)
  let translator ← Translator.create (sideOf internal) (sideOf external) config network.now
  let (id, network) := network.setPolicy node (.translating translator)
  -- Translated packets are for others, so the node has to forward.
  let network := network.onNode .v4 node fun node =>
    { node with settings := { node.settings with forwarding := true } }
  return (id, network.onSide .v4 fun side =>
    { side with keptPolicies := side.keptPolicies ++ [id] })

/-- Lets go of a policy. -/
def releasePolicy (network : Network) (id : PolicyId) : Network :=
  network.onSide .v4 fun side =>
    { side with keptPolicies := side.keptPolicies.erase id }

/-- An installed translator with the metrics that it counts in. -/
def translator? (network : Network) (id : PolicyId) : Option (Translator × RegistryId) :=
  match network.v4.policies.get? id with
  | some ⟨.translating translator, _, registry⟩ => some (translator, registry)
  | _ => none

/-- Whether an address is internal to an installed translator. -/
def isInternal (network : Network) (id : PolicyId) (address : Address .v4) : Bool :=
  match network.v4.policies.get? id with
  | some ⟨.translating translator, node, _⟩ =>
    translator.isInternal
      (fun address => (network.station? .v4 node).any (·.hasAddress address)) address
  | _ => false

/-- The network with an installed translator replaced. -/
def withTranslator (network : Network) (id : PolicyId) (translator : Translator) : Network :=
  network.onSide .v4 fun side =>
    { side with policies := side.policies.modify id fun installed =>
      { installed with policy := .translating translator } }

/-- Sends a packet from a node, and tells whether there was a way. -/
def send (network : Network) (id : NodeId) (packet : Packet family) : Bool × Network :=
  let side := network.side family
  match side.nodes.get? id with
  | none => (false, network)
  | some hosted =>
    let station : Station family := ⟨hosted.node, side.interfaces⟩
    let (sent, reaction) := station.send packet
    let network := network.record hosted.registry reaction.tallies
    (sent, network.deliverAll (reaction.sendings.map .sent))

/-- A new port on a hub. -/
def addPort (network : Network) (hub : HubId) (owner : PortOwner) : PortId × Network :=
  let (id, network) := network.newId
  (id, { network with ports := network.ports.insert id ⟨hub, owner, []⟩ })

/-- Takes a port off its hub. -/
def removePort (network : Network) (id : PortId) : Network :=
  { network with ports := network.ports.erase id }

/-- Number of ports on a hub. -/
def portCount (network : Network) (hub : HubId) : Nat :=
  network.ports.entries.countP fun (_, port) => port.hub == hub

/-- A new Ethernet interface on a new port of a hub. -/
def addEthernet (network : Network) (family : Family) (hub : HubId) (name : String)
    (settings : AdapterSettings) (registry : RegistryId) : InterfaceId × Network :=
  -- The port is needed for the adapter and the adapter for the interface that owns the port.
  let (port, network) := network.addPort hub (.bare 0)
  let (id, network) := network.addInterface family
    (.onPort name (.create settings port registry))
  (id, { network with
    ports := network.ports.modify port fun port => { port with owner := .adapter family id } })

/-- Looks a next hop up without asking for it. -/
def lookup (network : Network) (id : InterfaceId) (target : Address family) :
    Option Mac × Network :=
  match (network.interface family id).adapter? with
  | none => (none, network)
  | some adapter =>
    let (mac, resolver, hits) := adapter.resolver.lookup network.now target
    (mac, (network.onInterface family id (·.withResolver fun _ => resolver)).countAt family id
      (hits.map .one))

/-- Tells a resolver an answer, and whether it awaited it. -/
def reply (network : Network) (id : InterfaceId) (address : Address family) (mac : Mac) :
    Bool × Network :=
  let awaited := (network.interface family id).adapter?.any fun adapter =>
    (adapter.resolver.accept network.now address mac).1
  (awaited, network.stepResolver family id fun resolver =>
    (resolver.accept network.now address mac).2)

/-- Gives up an inquiry. -/
def cancel (network : Network) (family : Family) (id : CallId) : Network :=
  match (network.side family).calls.get? id with
  | none => network
  | some call =>
    let network := network.onSide family fun side =>
      { side with calls := side.calls.erase id }
    network.stepResolver family call.interface (·.cancel id)

/-- What the ports that nobody else reads have heard since the last time, cut to what is seen of
a frame. -/
def takeFrames (network : Network) : List (PortId × List Bytes) × Network :=
  let heard := network.ports.entries.filterMap fun (id, port) =>
    match port.owner with
    | .bare buffer => some (id, port.inbox.map (·.take buffer))
    | .adapter .. => none
  let ports := network.ports.entries.map fun (id, port) =>
    match port.owner with
    | .bare _ => (id, { port with inbox := [] })
    | .adapter .. => (id, port)
  (heard, { network with ports := ⟨ports⟩ })

/-- The events since the last time. -/
def takeEvents (network : Network) : List Event × Network :=
  (network.events, { network with events := [] })

end NetworkLayer.Network
