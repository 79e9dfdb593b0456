import NetworkLayer.Network.State

/-!
Sending on Ethernet: a packet whose next hop is known goes into the queue of the adapter, and
another one waits for the resolution of its next hop.
-/

namespace NetworkLayer.Network

/-- Counts in the metrics of an adapter. -/
def countAt (network : Network) (family : Family) (id : InterfaceId) (tallies : List Tally) :
    Network :=
  match (network.interface family id).adapter? with
  | some adapter => network.record adapter.registry tallies
  | none => network

/-- Counts a packet that an interface could not send. -/
def countSendDrop (network : Network) (family : Family) (id : InterfaceId) : Network :=
  network.countAt family id [.sendDrop (network.interface family id).name]

/-- Whether a frame found room in the queue of an adapter, and the network with it there. -/
def enqueue (network : Network) (family : Family) (id : InterfaceId) (frame : Bytes) :
    Bool × Network :=
  match (network.interface family id).adapter?.bind (·.enqueue? frame) with
  | some adapter =>
    let queued := network.onInterface family id (·.withAdapter fun _ => adapter)
    (true, queued.wake (.transmit family id))
  | none => (false, network)

/-- Queues the frame that carries a packet to a station, or counts the packet as dropped. -/
def sendFrame (network : Network) (family : Family) (id : InterfaceId) (destination : Mac)
    (packet : Bytes) : Network :=
  match (network.interface family id).adapter? with
  | none => network
  | some adapter =>
    match network.enqueue family id (adapter.dataFrame destination packet) with
    | (true, queued) => queued
    -- A full queue costs the packet, and the sender is not told.
    | (false, _) => network.countSendDrop family id

/-- Ends a call: a packet that waited for it is sent or dropped. -/
def finishCall (network : Network) (family : Family) (id : CallId) (mac : Option Mac) :
    Network :=
  match (network.side family).calls.get? id with
  | none => network
  | some call =>
    let network := network.onSide family fun side =>
      { side with calls := side.calls.erase id }
    match call.purpose, mac with
    -- Whoever asked is told, also of a failure.
    | .inquiry, mac => network.observe (.resolved id mac)
    | .send packet, some mac => network.sendFrame family call.interface mac packet
    | .send _, none => network.countSendDrop family call.interface

/-- Carries out an effect of the resolver of an interface. -/
def applyEffect (network : Network) {family : Family} (id : InterfaceId) :
    ResolutionEffect family → Network
  | .tally counter => network.countAt family id [.one counter]
  | .solicit target source =>
    match (network.interface family id).adapter? with
    | some adapter =>
      (network.enqueue family id
        (ResolutionTraffic.solicitation adapter.mac target source)).2
    | none => network
  | .wake call => network.wake (.call family call)
  | .arm call deadline => { network with timers := network.timers ++ [⟨deadline, family, call⟩] }
  | .finish call mac => network.finishCall family call mac

/-- Takes a step of the resolver of an interface, effects included. -/
def stepResolver (network : Network) (family : Family) (id : InterfaceId)
    (step : Resolver family → Resolver family × List (ResolutionEffect family)) : Network :=
  match (network.interface family id).adapter? with
  | none => network
  | some adapter =>
    let (resolver, effects) := step adapter.resolver
    effects.foldl (fun network effect => network.applyEffect id effect)
      (network.onInterface family id (·.withResolver fun _ => resolver))

/-- A new call to the resolver of an interface, which is looked at soon. -/
def call (network : Network) {family : Family} (id : InterfaceId) (target : Address family)
    (purpose : CallPurpose) : CallId × Network :=
  -- The resolver is asked only when the call gets its turn to run.
  let (call, network) := network.newId
  let network := network.onSide family fun side =>
    { side with calls := side.calls.insert call ⟨id, target, purpose, false⟩ }
  (call, network.wake (.call family call))

/-- The packets that wait for a resolution on an interface. -/
def pendingSends (network : Network) (family : Family) (id : InterfaceId) : Nat :=
  (network.side family).calls.entries.countP fun (_, call) =>
    call.interface == id && call.purpose != .inquiry

/-- Sends a packet on an Ethernet interface, unless too many wait already. -/
def sendOnEthernet (network : Network) {family : Family} (id : InterfaceId)
    (adapter : Adapter family) (packet : Bytes) (nextHop : Address family) : Network :=
  let (mac, resolver, hits) := adapter.resolver.lookup network.now nextHop
  let looked := network.onInterface family id (·.withResolver fun _ => resolver)
  let network := looked.countAt family id (hits.map .one)
  match mac with
  | some mac => network.sendFrame family id mac packet
  | none =>
    -- Packets to a neighbor that is down must not fill the memory.
    if network.pendingSends family id < adapter.pendingLimit then
      (network.call id nextHop (.send packet)).2
    else network.countSendDrop family id

end NetworkLayer.Network
