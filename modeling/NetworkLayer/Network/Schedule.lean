import NetworkLayer.Network.Delivery
import NetworkLayer.Network.Holding

/-!
What happens over time: adapters send and receive, resolutions go on, and the clock wakes those
that wait for it.
-/

namespace NetworkLayer.Network

/-- Frames that an adapter sends before others get their turn. -/
def transmitBurst : Nat := 128

/-- Frames that an adapter reads before others get their turn. -/
def receiveBurst : Nat := 64

/-- Bytes of a frame that an adapter reads. -/
def receiveLimit : Nat := 65536

/-- A port hears a frame, and the adapter behind it gets ready to read. -/
def hearFrame (network : Network) (id : PortId) (frame : Bytes) : Network :=
  let network := { network with
    ports := network.ports.modify id fun port => { port with inbox := port.inbox ++ [frame] } }
  match (network.ports.get? id).map Port.owner with
  | some (PortOwner.adapter family interface) => network.wake (.receive family interface)
  | _ => network

/-- Repeats a frame to all ports of a hub but the one that it comes from. -/
def repeatFrame (network : Network) (source : PortId) (frame : Bytes) : Network :=
  match network.ports.get? source with
  | none => network
  | some port =>
    let others := network.ports.entries.filter fun (id, other) =>
      id ≠ source && other.hub == port.hub
    others.foldl (fun network (id, _) => network.hearFrame id frame) network

/-- An adapter sends the frames of its queue, so many at a time. -/
def transmit (network : Network) (family : Family) (id : InterfaceId) : Network :=
  match (network.interface family id).adapter? with
  | none => network
  | some adapter =>
    let rest := adapter.queue.drop transmitBurst
    let network := network.onInterface family id
      (·.withAdapter fun adapter => { adapter with queue := rest })
    let network := (adapter.queue.take transmitBurst).foldl
      (fun network frame => network.repeatFrame adapter.port frame) network
    -- A long queue does not keep others waiting: it gets in line again.
    if rest.isEmpty then network else network.wake (.transmit family id)

/-- An adapter hears a frame: a question about its addresses is answered, an answer reaches its
resolver, and a packet goes to the listeners. -/
def hear (network : Network) (family : Family) (id : InterfaceId) (data : Bytes) : Network :=
  let interface := network.interface family id
  match interface.running, interface.adapter? with
  | true, some adapter =>
    match adapter.hear (data.take receiveLimit) with
    | .nothing => network
    | .resolution (.question reply) =>
      match network.enqueue family id reply with
      | (true, queued) => queued.countAt family id [.one .resolutionReplies]
      | (false, _) => network
    | .resolution (.answer address mac) =>
      network.stepResolver family id fun resolver => (resolver.accept network.now address mac).2
    | .resolution _ => network
    | .packet bytes accepted =>
      network.deliverAll (network.audience family id bytes accepted)
  | _, _ => network

/-- An adapter reads the frames that its port has heard, so many at a time. -/
def receive (network : Network) (family : Family) (id : InterfaceId) : Network :=
  match (network.interface family id).adapter? with
  | none => network
  | some adapter =>
    let heard := ((network.ports.get? adapter.port).map (·.inbox)).getD []
    -- What arrives meanwhile goes behind what has been heard before.
    let rest := heard.drop receiveBurst
    let network := { network with
      ports := network.ports.modify adapter.port fun port => { port with inbox := rest } }
    let network := (heard.take receiveBurst).foldl
      (fun network frame => network.hear family id frame) network
    if rest.isEmpty then network else network.wake (.receive family id)

/-- Looks at a resolution. -/
def look (network : Network) (family : Family) (id : CallId) : Network :=
  match (network.side family).calls.get? id with
  | none => network
  | some call =>
    -- A call asks its resolver when it first runs, and is resumed after that.
    if call.started then
      network.stepResolver family call.interface (·.resume network.now id)
    else
      let network := network.onSide family fun side =>
        { side with calls := side.calls.modify id fun call => { call with started := true } }
      network.stepResolver family call.interface (·.start network.now id call.target)

/-- Does a piece of work; what nobody holds any more goes. -/
def perform (network : Network) : Job → Network
  -- The call may have been the last to hold its interface.
  | .call family id => (network.look family id).collect
  | .transmit family id => network.transmit family id
  | .receive family id =>
    if ((network.interface family id).adapter?).any (·.isOpen) then network.receive family id
    else network

/-- Wakes the resolutions whose time has come, in the order in which they began to wait. -/
def fireTimers (network : Network) : Network :=
  let due := network.timers.filter (·.deadline ≤ network.now)
  due.foldl (fun network timer => network.wake (.call timer.family timer.call))
    { network with timers := network.timers.filter fun timer => network.now < timer.deadline }

/-- Does what is ready, at most so many pieces of work. -/
def settleWithin : Nat → Network → Network
  | 0, network => network
  | work + 1, network =>
    match network.ready with
    | job :: rest => settleWithin work (perform { network with ready := rest } job)
    | [] =>
      -- Timers that are due wait until no work is left at this time.
      if network.timers.any (·.deadline ≤ network.now) then settleWithin work network.fireTimers
      else network

/-- Does what is ready until nothing is left to do at this time. -/
def settle (network : Network) : Network :=
  settleWithin 1000000000 network.collect

/-- Lets the clock run to a time and stop where somebody waits for it, at most so many times. -/
def runUntil (target : Nat) : Nat → Network → Network
  | 0, network => { network with now := target }
  | stops + 1, network =>
    match ((network.timers.map (·.deadline)).filter (· ≤ target)).min? with
    | none => { network with now := target }
    | some deadline =>
      -- The clock never runs back, even if a timer is late.
      runUntil target stops (settle { network with now := max network.now deadline })

/-- Lets so many milliseconds pass; the clock stops at most once in each. -/
def advance (network : Network) (duration : Nat) : Network :=
  settle (runUntil (network.now + duration) (duration + 1) network)

end NetworkLayer.Network
