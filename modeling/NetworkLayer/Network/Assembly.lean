import NetworkLayer.Config
import NetworkLayer.Network.Operation

/-!
Stacks: the two nodes of a configuration with their interfaces, routes and translation in place. A
stack stands apart on links of its own, or on a hub that its devices are plugged into.
-/

namespace NetworkLayer

/-- Where the interfaces of a stack are. -/
inductive Surroundings
  /-- On links of their own, which nothing else is on. -/
  | apart
  /-- On devices on a hub; opening one by name, behind so many others, tells its own address. -/
  | devices (hub : HubId) (device : Nat → String → Except Error Mac)

/-- An assembled stack; its interfaces go by the configured names. -/
structure Stack where
  v4 : NodeId
  v6 : NodeId
  interfaces4 : List (String × InterfaceId)
  interfaces6 : List (String × InterfaceId)
  translator : Option PolicyId
deriving DecidableEq, Repr

/-- A value that has to be there. -/
def orRefuse {α : Type} (cause : Error) : Option α → Except Error α
  | some value => .ok value
  | none => .error cause

namespace Stack

/-- The node of a family. -/
def node (stack : Stack) : Family → NodeId
  | .v4 => stack.v4
  | .v6 => stack.v6

/-- The interfaces of a family. -/
def interfaces (stack : Stack) : Family → List (String × InterfaceId)
  | .v4 => stack.interfaces4
  | .v6 => stack.interfaces6

/-- The interface of a name, in a family. -/
def interface? (stack : Stack) (family : Family) (name : String) : Option InterfaceId :=
  (stack.interfaces family).lookup name

/-- The stack with one more interface. -/
def withInterface (stack : Stack) (family : Family) (name : String) (id : InterfaceId) : Stack :=
  match family with
  | .v4 => { stack with interfaces4 := stack.interfaces4 ++ [(name, id)] }
  | .v6 => { stack with interfaces6 := stack.interfaces6 ++ [(name, id)] }

/-- The interface that goes by a name, which has to be there. -/
def find (stack : Stack) (family : Family) (name : String) : Except Error InterfaceId :=
  orRefuse (.interfaceNotFound name) (stack.interface? family name)

end Stack

/-- Work on a network that may be refused halfway. -/
abbrev Assembly := ExceptT Error (StateM Network)

namespace Assembly

/-- Changes the network. -/
def step {α : Type} (change : Network → α × Network) : Assembly α :=
  ExceptT.lift (modifyGet change)

/-- Opens the device of an interface and tells the link-layer address to use on it. -/
def openDevice (device : Nat → String → Except Error Mac) (interface : InterfaceConfig) :
    Assembly Mac := do
  -- The device is opened before the configured address is looked at.
  let own ← liftExcept (device (← get).devices interface.name)
  modify fun network => { network with devices := network.devices + 1 }
  match interface.mac with
  | none => return own
  | some text => liftExcept (orRefuse (.interfaceMac interface.name text) (Mac.parse? text))

/-- Sets up the interface of a family on its own link or on its device. -/
def openInterface (config : Config) (registry : RegistryId) (surroundings : Surroundings)
    (family : Family) (link : LinkId) (interface : InterfaceConfig) : Assembly InterfaceId := do
  match surroundings with
  | .apart => step (·.addLinkInterface family link none)
  | .devices hub device =>
    let mac ← openDevice device interface
    let resolver := config.resolver.settings family
    step (·.addEthernet family hub interface.name { mac, resolver } registry)

/-- Attaches an interface with its addresses to the node of a family, if it has any there. -/
def attach (family : Family) (stack : Stack) (interface : InterfaceConfig)
    (opened : Assembly InterfaceId) : Assembly Stack := do
  if (interface.addresses family).isEmpty then return stack
  -- A malformed address is found before the device is opened.
  let entries ← liftExcept ((interface.addresses family).mapM (InterfaceAddress.parse family))
  let id ← opened
  let node := stack.node family
  step (·.configure family node fun station => ((), station.attach node id))
  entries.forM fun entry =>
    step (·.configure family node fun station => ((), station.addAddress id entry))
  return stack.withInterface family interface.name id

/-- The table of a family with a configured route. -/
def withRoute {family : Family} (stack : Stack) (table : RoutingTable family)
    (route : StaticRoute) : Except Error (RoutingTable family) := do
  let destination ← Destination.parse family route.destination
  let gateway ← route.gateway.mapM fun text =>
    orRefuse (.gatewayText family text) (Address.parse? family text.toList)
  match route.interface, gateway with
  | some name, gateway =>
    return table.add (.configured destination gateway (← stack.find family name))
  | none, some gateway => table.addVia destination gateway
  | none, none => throw (.routeTarget route.destination)

/-- Puts a configured route in the table of its family. -/
def addRoute (stack : Stack) (route : StaticRoute) : Assembly Unit := do
  let family := route.family
  match (← get).station? family (stack.node family) with
  | none => return
  | some station =>
    let table ← liftExcept (withRoute stack station.node.table route)
    modify (·.onNode family (stack.node family) fun node => { node with table })

/-- Puts the translation with its static mappings in place. -/
def addTranslation (stack : Stack) (config : TranslationConfig) : Assembly Stack := do
  let internal ← liftExcept (stack.find .v4 config.internal)
  let external ← liftExcept (stack.find .v4 config.external)
  let (id, network) ←
    liftExcept ((← get).installTranslator stack.v4 internal external config.settings)
  set network
  config.mappings.forM fun mapping => do
    match (← get).translator? id with
    | none => return
    | some (translator, _) =>
      let translator ← liftExcept (translator.addStatic mapping.protocol.tracked
        ⟨translator.externalAddress, mapping.externalPort⟩
        ⟨mapping.internalAddress, mapping.internalPort⟩)
      modify (·.withTranslator id translator)
  return { stack with translator := some id }

/-- Puts what a configuration describes around the nodes of a stack. -/
def furnish (config : Config) (surroundings : Surroundings) (registry : RegistryId)
    (stack : Stack) : Assembly Stack := do
  let link4 ← step (·.addLink (Prefix.containing (.unspecified : Address .v4) 0))
  let link6 ← step (·.addLink (Prefix.containing (.unspecified : Address .v6) 0))
  let stack ← config.interfaces.foldlM (fun stack interface => do
    let stack ← attach .v4 stack interface
      (openInterface config registry surroundings .v4 link4 interface)
    attach .v6 stack interface
      (openInterface config registry surroundings .v6 link6 interface)) stack
  config.routing.staticRoutes.forM (addRoute stack)
  match config.translation with
  | none => return stack
  | some translation => addTranslation stack translation

end Assembly

namespace Network

/-- The network with only what an operator held in another one still held. -/
def heldAs (network before : Network) : Network :=
  let keep := fun (network : Network) (family : Family) =>
    let held := before.side family
    network.onSide family fun side => { side with
      keptInterfaces := held.keptInterfaces
      keptNodes := held.keptNodes
      keptPolicies := held.keptPolicies }
  keep (keep network .v4) .v6

/-- Assembles a stack, which an operator holds; one that is refused leaves nothing behind. -/
def addStack (network : Network) (config : Config) (surroundings : Surroundings) :
    Except Error Stack × Network :=
  let (registry, next) := network.addRegistry
  let (v4, next) := next.addNode .v4 (config.nodeSettings .v4) registry
  let (v6, next) := next.addNode .v6 (config.nodeSettings .v6) registry
  match Assembly.furnish config surroundings registry ⟨v4, v6, [], [], none⟩ |>.run next with
  | (.ok stack, next) => (.ok stack, next)
  -- What was set up before the refusal is held by nobody, and goes.
  | (.error cause, next) => (.error cause, next.heldAs network)

/-- The route of a stack for an address, with the configured names. -/
def describeRoute {family : Family} (network : Network) (stack : Stack)
    (address : Address family) : Option String := do
  let station ← network.station? family (stack.node family)
  let route ← station.routeFor address
  let nameOf := fun id =>
    (((stack.interfaces family).find? (·.2 == id)).map (·.1)).getD (station.interfaces.at id).name
  return route.render nameOf

/-- Closes both nodes of a stack. -/
def closeStack (network : Network) (stack : Stack) : Network :=
  let close := fun (network : Network) (family : Family) =>
    (network.configure family (stack.node family) fun station =>
      ((), station.close (stack.node family))).2
  close (close network .v4) .v6

/-- Lets go of a stack. -/
def releaseStack (network : Network) (stack : Stack) : Network :=
  let release := fun (network : Network) (family : Family) =>
    ((stack.interfaces family).foldl (fun network (_, id) => network.releaseInterface family id)
      network).releaseNode family (stack.node family)
  stack.translator.toList.foldl releasePolicy (release (release network .v4) .v6)

/-- A stack gets another holder. -/
def holdStack (network : Network) (stack : Stack) : Network :=
  let hold := fun (network : Network) (family : Family) =>
    network.onSide family fun side => { side with
      keptInterfaces := side.keptInterfaces ++ (stack.interfaces family).map (·.2)
      keptNodes := side.keptNodes ++ [stack.node family] }
  (hold (hold network .v4) .v6).onSide .v4 fun side =>
    { side with keptPolicies := side.keptPolicies ++ stack.translator.toList }

end Network

end NetworkLayer
