import NetworkLayer.Network.Ethernet
import NetworkLayer.Node.Forwarding

/-!
Delivery on links and loopbacks happens at once: each packet that is sent or heard leads to others,
which are followed to their ends, the first one first.
-/

namespace NetworkLayer

/-- A packet on its way. -/
inductive Transit (family : Family)
  /-- A packet is sent on an interface. -/
  | sent (sending : Sending family)
  /-- A listener hears a packet on an interface. -/
  | heard (listener : Listener) (interface : InterfaceId) (packet : Bytes)
deriving DecidableEq

namespace Network

variable {family : Family}

/-- The listeners of an interface hear a packet. -/
def audience (network : Network) (family : Family) (id : InterfaceId) (packet : Bytes)
    (accepted : Bool) : List (Transit family) :=
  ((network.interface family id).audience accepted).map fun listener =>
    .heard listener id packet

/-- Whether an interface on a link takes a packet to a next hop. -/
def accepts (interface : Interface family) (nextHop : Address family) : Bool :=
  nextHop.isGroup || interface.lists nextHop

/-- Those on a link who hear a packet: on the sending interface the promiscuous listeners, then
the other running interfaces in the order in which they came. -/
def onLink (network : Network) (link : LinkId) (sending : Sending family) :
    List (Transit family) :=
  let members := (((network.side family).links.get? link).map (·.members)).getD []
  let peers := members.filter fun id =>
    id ≠ sending.interface && (network.interface family id).running
  network.audience family sending.interface sending.packet false ++
    peers.flatMap fun id =>
      network.audience family id sending.packet
        (accepts (network.interface family id) sending.nextHop)

/-- Follows a packet by one step. -/
def follow (network : Network) : Transit family → Network × List (Transit family)
  | .sent sending =>
    let interface := network.interface family sending.interface
    match interface.medium with
    -- A loopback accepts all that is sent on it.
    | .loopback => (network, network.audience family sending.interface sending.packet true)
    | .link link => (network, if interface.running then network.onLink link sending else [])
    | .ethernet adapter =>
      if interface.running then
        (network.sendOnEthernet sending.interface adapter sending.packet sending.nextHop, [])
      else (network, [])
  | .heard (.tap tap) id packet =>
    if (network.side family).taps.contains tap then
      (network.observe (.tapped tap (network.interface family id).name packet), [])
    else (network, [])
  | .heard (.node id) ingress packet =>
    let side := network.side family
    match side.nodes.get? id with
    | none => (network, [])
    | some hosted =>
      let station : Station family := ⟨hosted.node, side.interfaces⟩
      let policy := ((side.policies.get? hosted.policy).map (·.policy)).getD default
      -- The reaction is a value; what it says is carried out below.
      let (reaction, policy) := station.receive policy network.now ingress packet
      let network := network.onSide family fun side =>
        { side with
          policies := side.policies.modify hosted.policy fun installed =>
            { installed with policy } }
      -- Counts and the new policy are in place before anything is sent.
      let network := network.record hosted.registry reaction.tallies
      let network := match reaction.delivered with
        | some packet => network.observe
            (.delivered id packet.upperProtocol (network.interface family ingress).name
              packet.bytes)
        | none => network
      (network, reaction.sendings.map .sent)

/-- More steps than any packet can take in a row: a packet makes at most 255 hops of two steps
each, an answer to it or an error about it at most 64, and an error about an answer as many. -/
def longestWay : Nat := 1024

/-- Follows a packet and all that it leads to. -/
def deliverWithin : Nat → Network → Transit family → Network
  | 0, network, _ => network
  | steps + 1, network, transit =>
    let (network, next) := network.follow transit
    -- Depth first: the first packet and all that comes of it, then the second.
    next.foldl (deliverWithin steps) network

/-- Follows a packet and all that it leads to. -/
def deliver (network : Network) (transit : Transit family) : Network :=
  deliverWithin longestWay network transit

/-- Follows packets one after another. -/
def deliverAll (network : Network) (transits : List (Transit family)) : Network :=
  transits.foldl deliver network

end Network

end NetworkLayer
