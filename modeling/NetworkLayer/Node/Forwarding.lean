import NetworkLayer.ControlMessage
import NetworkLayer.Node.Basic
import NetworkLayer.Policy
import NetworkLayer.SegmentEndpoint

/-!
What a node does with a packet. A received packet is delivered, forwarded or dropped; the outcome
is a value that tells what is sent, what the upper layer gets and what is counted.
-/

namespace NetworkLayer

/-- A packet that a node hands to one of its interfaces. -/
structure Sending (family : Family) where
  interface : InterfaceId
  packet : Bytes
  nextHop : Address family
deriving DecidableEq

/-- What comes of a packet. -/
structure Reaction (family : Family) where
  tallies : List Tally := []
  sendings : List (Sending family) := []
  /-- The packet that the upper layer is handed. -/
  delivered : Option (Packet family) := none

namespace Reaction

variable {family : Family}

/-- Nothing but a count. -/
def counting (counters : List Counter) : Reaction family :=
  { tallies := counters.map .one }

/-- The reaction with more counts in front. -/
def after (reaction : Reaction family) (tallies : List Tally) : Reaction family :=
  { reaction with tallies := tallies ++ reaction.tallies }

end Reaction

namespace Station

variable {family : Family}

/-- Hands a packet to an attached interface and counts it there. -/
def handOver (station : Station family) (interface : InterfaceId) (packet : Bytes)
    (nextHop : Address family) : Reaction family where
  tallies := [.sent (station.interfaces.at interface).name packet.length]
  sendings := [⟨interface, packet, nextHop⟩]

/-- Sends a packet by the route for its destination; without one it is dropped. -/
def sendRouted (station : Station family) (packet : Bytes) (destination : Address family) :
    Bool × Reaction family :=
  match station.routeFor destination with
  | none => (false, .counting [.noRoute, .packetsDropped])
  | some route =>
    (true, station.handOver route.interface packet (route.nextHopFor destination))

/-- Sends a copy of a packet on every attached interface. -/
def sendAll (station : Station family) (packet : Bytes) (destination : Address family) :
    Reaction family :=
  -- A group is on every link, so no route is looked up.
  let copies := station.node.attached.map fun id => station.handOver id packet destination
  { tallies := copies.flatMap (·.tallies), sendings := copies.flatMap (·.sendings) }

/-- Sends a packet that starts here: an own destination loops back, a group goes out on every
interface, and the rest is routed. The flag tells whether there was a way. -/
def send (station : Station family) (packet : Packet family) : Bool × Reaction family :=
  let destination := packet.destination
  if station.ownsUnicast destination then
    (true, { sendings := [⟨station.node.loopback, packet.bytes, destination⟩] })
  else if destination.isGroup then (true, station.sendAll packet.bytes destination)
  else station.sendRouted packet.bytes destination

/-- Reports an error to the source of a packet, if the policy allows it and there is an address
to report it from. -/
def report (station : Station family) (policy : Policy family) (error : ControlError)
    (offending : Packet family) : Reaction family :=
  if !policy.allowsError offending then {}
  else match station.sourceFor? offending.source with
    | none => {}
    | some source =>
      match offending.errorReport? error source with
      -- The counter tells of the attempt, even if the report could not be made.
      | none => .counting [error.counter]
      | some packet => (station.send packet).2.after [.one error.counter]

/-- Answers an echo request from the address that it was sent to or, if that is a group, from the
first unicast address of the interface that it came in on. -/
def answerEcho (station : Station family) (ingress : InterfaceId) (request : Packet family) :
    Reaction family :=
  let source :=
    if station.ownsUnicast request.destination then some request.destination
    -- One such request could make every host on a link answer.
    else if family == .v4 && station.node.settings.discardsGroupEcho then none
    else (station.interfaces.at ingress).firstUnicast?
  match source.bind request.echoReply? with
  | none => {}
  | some packet => (station.send packet).2.after [.one .echoReplies]

/-- Hands a packet to the upper layer; an echo request is answered, and what nothing takes is
reported. -/
def deliver (station : Station family) (policy : Policy family) (ingress : InterfaceId)
    (packet : Packet family) : Reaction family :=
  let reaction : Reaction family := match packet.controlMessage with
    -- A control message that cannot be read counts as delivered all the same.
    | .malformed => {}
    | .echoRequest => station.answerEcho ingress packet
    | _ =>
      if station.node.handled.contains packet.upperProtocol then { delivered := some packet }
      -- A packet to a group is for many, and its sender does not want to hear from each.
      else if !packet.isControl && station.ownsUnicast packet.destination &&
          station.node.settings.reportsUnreachable then
        station.report policy .unreachable packet
      else {}
  reaction.after [.one .packetsDelivered]

/-- Forwards a packet by one hop; a group is not forwarded, and a packet that may make no further
hop is reported. -/
def forward (station : Station family) (policy : Policy family) (packet : Packet family) :
    Reaction family :=
  if packet.destination.isGroup then .counting [.packetsDropped]
  else match packet.hopped? with
    | none =>
      (station.report policy .timeExceeded packet).after
        [.one .ttlExpired, .one .packetsDropped]
    | some hopped =>
      -- The policy sees the packet as it will leave.
      match policy.forward? hopped with
      | none => .counting [.packetsDropped]
      | some packet =>
        let (routed, reaction) := station.sendRouted packet.bytes packet.destination
        -- Without a route the packet is counted as dropped and not as forwarded.
        if routed then reaction.after [.one .packetsForwarded] else reaction

/-- Takes a packet for the node. A host takes it as it is; a router visits the segments that name
it, at most `visits` of them, and forwards the packet when the next one is elsewhere. -/
def takeIn (station : Station family) (policy : Policy family) (ingress : InterfaceId) :
    Nat → Packet family → Reaction family
  | 0, packet => station.deliver policy ingress packet
  | visits + 1, packet =>
    if station.node.settings.forwarding then
      match packet.visitSegment with
      | .arrived => station.deliver policy ingress packet
      | .stuck => .counting [.packetsDropped]
      | .onward packet =>
        -- The next segment may be another address of the same node.
        if station.hasAddress packet.destination then
          station.takeIn policy ingress visits packet
        else station.forward policy packet
    else station.deliver policy ingress packet

/-- Delivers, forwards or drops a packet by the verdict of the policy. -/
def dispatch (station : Station family) (policy : Policy family) (ingress : InterfaceId)
    (packet : Packet family) : Reaction family :=
  let owned := station.hasAddress packet.destination
  match policy.classify owned station.node.settings.forwarding with
  | .deliver => station.takeIn policy ingress packet.visitLimit packet
  | .forward => station.forward policy packet
  | .drop => .counting [.packetsDropped]

/-- Takes in what an interface received, and tells the policy after it. -/
def receive (station : Station family) (policy : Policy family) (now : Nat)
    (ingress : InterfaceId) (data : Bytes) : Reaction family × Policy family :=
  let name := (station.interfaces.at ingress).name
  let received := Tally.received name data.length
  match Packet.parse family data with
  | .error _ => ({ tallies := [received, .receiveDrop name, .one .packetsDropped] }, policy)
  | .ok packet =>
    -- A translator may change the destination, so the verdict comes after it.
    let (packet, policy, tallies) := policy.receive now station.hasAddress ingress packet
    match packet with
    | none => ({ tallies := received :: tallies }, policy)
    | some packet =>
      ((station.dispatch policy ingress packet).after (received :: tallies), policy)

end Station

end NetworkLayer
