import NetworkLayer.Interface
import NetworkLayer.Link
import NetworkLayer.Node.Basic
import NetworkLayer.Policy

/-!
The state of a network: links, interfaces, nodes and hubs of both families, the work that is
ready or waits for the clock, and what has been observed.
-/

namespace NetworkLayer

/-- The identity of a hub. -/
abbrev HubId := Nat

/-- The identity of a policy. -/
abbrev PolicyId := Nat

/-- Who reads the frames that a port hears. -/
inductive PortOwner
  /-- Nobody but an observer, who sees so many bytes of a frame. -/
  | bare (buffer : Nat)
  /-- The adapter of an interface. -/
  | adapter (family : Family) (interface : InterfaceId)
deriving DecidableEq, Repr

/-- A port on a hub with the frames that it has heard. -/
structure Port where
  hub : HubId
  owner : PortOwner
  inbox : List Bytes
deriving DecidableEq

/-- Why a next hop is resolved. -/
inductive CallPurpose
  /-- To send a packet to it. -/
  | send (packet : Bytes)
  /-- To know it. -/
  | inquiry
deriving DecidableEq

/-- A resolution in progress. -/
structure Call (family : Family) where
  interface : InterfaceId
  target : Address family
  purpose : CallPurpose
  started : Bool
deriving DecidableEq

/-- A node in the network with its policy and its metrics. -/
structure HostedNode (family : Family) where
  node : Node family
  policy : PolicyId
  registry : RegistryId

/-- A policy with the node that it was made for and the metrics that it counts in. -/
structure InstalledPolicy (family : Family) where
  policy : Policy family
  node : NodeId
  registry : RegistryId

/-- What the network has of one family. -/
structure Side (family : Family) where
  links : Dictionary LinkId (Link family) := .empty
  interfaces : Interfaces family := .empty
  nodes : Dictionary NodeId (HostedNode family) := .empty
  policies : Dictionary PolicyId (InstalledPolicy family) := .empty
  /-- The taps that still listen. -/
  taps : List TapId := []
  calls : Dictionary CallId (Call family) := .empty
  /-- The interfaces that an operator holds on to, as often as there are holders. -/
  keptInterfaces : List InterfaceId := []
  /-- The nodes that an operator holds on to, as often as there are holders. -/
  keptNodes : List NodeId := []
  /-- The policies that an operator holds on to. -/
  keptPolicies : List PolicyId := []

/-- A piece of work that is ready. -/
inductive Job
  /-- A resolution is looked at. -/
  | call (family : Family) (call : CallId)
  /-- An adapter sends the frames of its queue. -/
  | transmit (family : Family) (interface : InterfaceId)
  /-- An adapter reads the frames that its port has heard. -/
  | receive (family : Family) (interface : InterfaceId)
deriving DecidableEq, Repr

/-- A resolution that is to be looked at when the clock reaches a time. -/
structure Timer where
  deadline : Nat
  family : Family
  call : CallId
deriving DecidableEq, Repr

/-- Something that an observer sees. -/
inductive Event
  /-- A tap heard a packet on an interface. -/
  | tapped (tap : TapId) (interface : String) (packet : Bytes)
  /-- The upper layer of a node got a packet from an interface. -/
  | delivered (node : NodeId) (protocol : UInt8) (interface : String) (packet : Bytes)
  /-- An inquiry ended. -/
  | resolved (call : CallId) (mac : Option Mac)
deriving DecidableEq

/-- A network of both families; times are in milliseconds. -/
structure Network where
  v4 : Side .v4 := {}
  v6 : Side .v6 := {}
  registries : Dictionary RegistryId Metrics := .empty
  /-- In the order in which they were plugged in. -/
  ports : Dictionary PortId Port := .empty
  /-- In the order in which it became ready. -/
  ready : List Job := []
  /-- In the order in which they were set. -/
  timers : List Timer := []
  now : Nat := 0
  /-- In the order in which they were seen. -/
  events : List Event := []
  /-- The identity that is given next. -/
  fresh : Nat := 0
  /-- Devices opened on hubs so far. -/
  devices : Nat := 0

namespace Network

/-- The part of a family. -/
def side (network : Network) (family : Family) : Side family :=
  match family with
  | .v4 => network.v4
  | .v6 => network.v6

/-- The network with the part of a family changed. -/
def onSide (network : Network) (family : Family) (change : Side family → Side family) : Network :=
  match family with
  | .v4 => { network with v4 := change network.v4 }
  | .v6 => { network with v6 := change network.v6 }

/-- A new identity. -/
def newId (network : Network) : Nat × Network :=
  (network.fresh, { network with fresh := network.fresh + 1 })

/-- An interface in use. -/
def interface (network : Network) (family : Family) (id : InterfaceId) : Interface family :=
  (network.side family).interfaces.at id

/-- The network with an interface changed. -/
def onInterface (network : Network) (family : Family) (id : InterfaceId)
    (change : Interface family → Interface family) : Network :=
  network.onSide family fun side => { side with interfaces := side.interfaces.modify id change }

/-- The metrics of a registry. -/
def metrics (network : Network) (registry : RegistryId) : Metrics :=
  (network.registries.get? registry).getD .empty

/-- The network with changes of metrics. -/
def record (network : Network) (registry : RegistryId) (tallies : List Tally) : Network :=
  { network with
    registries := network.registries.insert registry
      ((network.metrics registry).record tallies) }

/-- The network with an event seen last. -/
def observe (network : Network) (event : Event) : Network :=
  { network with events := network.events ++ [event] }

/-- The network with a job ready, unless it is ready already. -/
def wake (network : Network) (job : Job) : Network :=
  if network.ready.contains job then network
  else { network with ready := network.ready ++ [job] }

end Network

end NetworkLayer
