import NetworkLayer.Resolution.Exchange
import NetworkLayer.Resolution.Resolver

/-!
An Ethernet adapter: the resolver for the next hops of an interface, and a queue of frames on their
way to a port.
-/

namespace NetworkLayer

/-- The identity of a port on a hub. -/
abbrev PortId := Nat

/-- The identity of a set of metrics. -/
abbrev RegistryId := Nat

/-- How an adapter is set up. -/
structure AdapterSettings where
  mac : Mac
  resolver : ResolverSettings
  /-- Frames that the queue holds. -/
  queueDepth : Nat := 256
  /-- Packets that may wait for the resolution of their next hop. -/
  pendingLimit : Nat := 64

/-- An adapter at work. -/
structure Adapter (family : Family) where
  resolver : Resolver family
  port : PortId
  registry : RegistryId
  queueDepth : Nat
  pendingLimit : Nat
  /-- Frames that wait for transmission, first come first served. -/
  queue : List Bytes
  /-- Whether frames are still sent and received. -/
  isOpen : Bool
deriving DecidableEq

namespace Adapter

variable {family : Family}

/-- A new adapter on a port; its limits are at least one. -/
def create (settings : AdapterSettings) (port : PortId) (registry : RegistryId) :
    Adapter family where
  resolver := .create settings.resolver settings.mac
  port
  registry
  queueDepth := max 1 settings.queueDepth
  pendingLimit := max 1 settings.pendingLimit
  queue := []
  isOpen := true

/-- The link-layer address. -/
def mac (adapter : Adapter family) : Mac := adapter.resolver.mac

/-- The payload type of the family's packets. -/
def etherType : Family → EtherType
  | .v4 => .ipv4
  | .v6 => .ipv6

/-- The adapter with a frame at the end of the queue, if it is open and has room. -/
def enqueue? (adapter : Adapter family) (frame : Bytes) : Option (Adapter family) :=
  if adapter.isOpen && adapter.queue.length < adapter.queueDepth then
    some { adapter with queue := adapter.queue ++ [frame] }
  else none

/-- The frame that carries a packet to a station. -/
def dataFrame (adapter : Adapter family) (destination : Mac) (packet : Bytes) : Bytes :=
  Frame.encode destination adapter.mac (etherType family) packet

/-- The adapter after it has stopped; frames in the queue are lost. -/
def close (adapter : Adapter family) : Adapter family :=
  { adapter with queue := [], isOpen := false }

/-- What a received frame means to the adapter. -/
inductive Heard (family : Family)
  /-- The frame is malformed, its own echo, or of another family. -/
  | nothing
  /-- The frame is about the resolution of addresses. -/
  | resolution (traffic : ResolutionTraffic family)
  /-- The frame carries a packet, which is for this station or not. -/
  | packet (bytes : Bytes) (accepted : Bool)

/-- Sorts a received frame; a packet keeps the padding of its frame. -/
def hear (adapter : Adapter family) (data : Bytes) : Heard family :=
  match Frame.parse data with
  | .error _ => .nothing
  | .ok frame =>
    -- A port may hear what its own adapter has sent.
    if frame.source = adapter.mac then .nothing
    -- Resolution comes first: its packets are not for the upper layers.
    else match ResolutionTraffic.ofFrame adapter.mac adapter.resolver.owns frame with
      | .foreign =>
        if frame.etherType = (etherType family).code then
          .packet frame.payload
            (frame.destination == adapter.mac || frame.destination.isMulticast)
        else .nothing
      | traffic => .resolution traffic

end Adapter

end NetworkLayer
