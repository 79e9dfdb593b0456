import NetworkLayer.Network.State

/-!
Who holds on to what. A node holds its interfaces, its routes and its policy; operators hold what
they have set up until they let go. An interface that nobody holds leaves its link or its hub.
-/

namespace NetworkLayer

/-- The interfaces that a node holds: its own, and those of its routes. -/
def Node.holdings {family : Family} (node : Node family) : List InterfaceId :=
  node.loopback :: node.attached ++ node.table.routes.map (·.interface)

/-- The interfaces that a policy holds: the two sides of a translator. -/
def Policy.holdings {family : Family} (policy : Policy family) : List InterfaceId :=
  match policy with
  | .translating translator => [translator.internal, translator.external]
  | _ => []

namespace Side

variable {family : Family}

/-- The policies in use. -/
def heldPolicies (side : Side family) : List PolicyId :=
  side.keptPolicies ++ side.nodes.entries.map fun (_, hosted) => hosted.policy

/-- The interfaces in use. -/
def heldInterfaces (side : Side family) : List InterfaceId :=
  let policies := side.heldPolicies
  side.keptInterfaces ++
    side.nodes.entries.flatMap (fun (_, hosted) => hosted.node.holdings) ++
    side.policies.entries.flatMap (fun (id, installed) =>
      -- A policy that was replaced holds nothing, unless an operator kept it.
      if policies.contains id then installed.policy.holdings else []) ++
    side.calls.entries.filterMap fun (_, call) =>
      -- An inquiry holds the resolver alone, not the interface around it.
      if call.purpose = .inquiry then none else some call.interface

/-- The part without the nodes that nobody holds, and their policies. -/
def dropNodes (side : Side family) : Side family :=
  { side with nodes := ⟨side.nodes.entries.filter fun (id, _) => side.keptNodes.contains id⟩ }

/-- The interfaces that nobody holds any more. -/
def abandoned (side : Side family) : List InterfaceId :=
  let held := side.heldInterfaces
  side.interfaces.keys.filter fun id => !held.contains id

/-- The part with interfaces closed and off their links. -/
def closeInterfaces (side : Side family) (ids : List InterfaceId) : Side family :=
  { side with
    interfaces := ⟨side.interfaces.entries.map fun (id, interface) =>
      (id, if ids.contains id then interface.close else interface)⟩
    links := ⟨side.links.entries.map fun (id, link) =>
      (id, { link with members := link.members.filter fun member => !ids.contains member })⟩ }

end Side

namespace Network

/-- Collects one family: what nobody holds goes, and its ports are unplugged. -/
def collectSide (network : Network) (family : Family) : Network :=
  -- Nodes go first, since they hold interfaces.
  let network := network.onSide family (·.dropNodes)
  let abandoned := (network.side family).abandoned
  if abandoned.isEmpty then network
  else
    let gone := fun (port : Port) => match port.owner with
      | .adapter owner interface => owner == family && abandoned.contains interface
      | .bare _ => false
    let network := network.onSide family (·.closeInterfaces abandoned)
    { network with ports := ⟨network.ports.entries.filter fun (_, port) => !gone port⟩ }

/-- The network without what nobody holds. -/
def collect (network : Network) : Network :=
  (network.collectSide .v4).collectSide .v6

end Network

end NetworkLayer
