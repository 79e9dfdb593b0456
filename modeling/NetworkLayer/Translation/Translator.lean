import NetworkLayer.Dictionary
import NetworkLayer.Icmp
import NetworkLayer.InterfaceAddress
import NetworkLayer.Ipv4
import NetworkLayer.Metrics
import NetworkLayer.Route
import NetworkLayer.Translation.IndexedTable
import NetworkLayer.Translation.PortPool
import NetworkLayer.Transport

/-!
Stateful address translation between an internal and an external interface. A packet from the
inside leaves with the external address and a port of the pool, and what comes back to that socket
goes to the inside again. ICMP echo uses its identifier in place of a port.
-/

namespace NetworkLayer

/-- The protocols whose flows are tracked. -/
inductive TrackedProtocol
  | icmp
  | tcp
  | udp
deriving DecidableEq, Repr

namespace TrackedProtocol

/-- The number in the packet header. -/
def number : TrackedProtocol → UInt8
  | icmp => Protocol.icmp.number
  | tcp => Protocol.tcp.number
  | udp => Protocol.udp.number

/-- The tracked protocol of a number. -/
def ofNumber? (number : UInt8) : Option TrackedProtocol :=
  [icmp, tcp, udp].find? (·.number == number)

/-- The name of a protocol. -/
def label : TrackedProtocol → String
  | icmp => "icmp"
  | tcp => "tcp"
  | udp => "udp"

end TrackedProtocol

/-- A protocol with ports. -/
inductive PortProtocol
  | tcp
  | udp
deriving DecidableEq, Repr

namespace PortProtocol

/-- The tracked protocol. -/
def tracked : PortProtocol → TrackedProtocol
  | tcp => .tcp
  | udp => .udp

/-- The name of a protocol. -/
def label (protocol : PortProtocol) : String := protocol.tracked.label

/-- The segment that a packet carries, if its header is well formed. -/
def segment? (protocol : PortProtocol) (payload : Bytes) : Except Error Bytes :=
  match protocol with
  | tcp => (TcpSegment.parse payload).map (·.bytes)
  | udp => (UdpDatagram.parse payload).map (·.bytes)

/-- A segment with its checksum brought up to date. -/
def refreshed (protocol : PortProtocol) (segment : Bytes) (source destination : Address .v4) :
    Bytes :=
  match protocol with
  | tcp => (TcpSegment.refreshed ⟨segment⟩ source destination).bytes
  | udp => (UdpDatagram.refreshed ⟨segment⟩ source destination).bytes

end PortProtocol

/-- In which order the flows of each protocol that expire together are released. -/
class ReleaseOrders where
  order : TrackedProtocol → ReleaseOrder

/-- Unless something else is said, each table goes by the order in which the flows were added. -/
instance : ReleaseOrders := ⟨fun _ => .asAdded⟩

/-- How a translator is set up; times are in milliseconds. -/
structure TranslatorConfig where
  /-- If missing, the first unicast address of the external interface. -/
  externalAddress : Option (Address .v4) := none
  firstPort : UInt16 := 6200
  lastPort : UInt16 := 6299
  entryTimeout : Nat := 300000
  sweepInterval : Nat := 1200000
  /-- Whether a port returns to the pool when its last flow expires. -/
  reclaimPorts : Bool := true
  [releases : ReleaseOrders]

/-- What becomes of one packet. -/
inductive Translation
  | translated (packet : Ipv4Packet)
  /-- Inbound, with neither a tracked flow nor a static mapping. -/
  | noMapping
  | portsExhausted
  /-- A protocol or message type that is not translated. -/
  | unsupported
  | malformed (cause : Error)
deriving DecidableEq

/-- The tracking state of a protocol with ports. -/
structure PortState where
  table : FlowTable
  pool : PortPool
  /-- Internal sockets under external ones. -/
  statics : Dictionary Endpoint Endpoint

namespace PortState

/-- Whether a port stays out of the pool: a static mapping or a tracked flow holds it. -/
def holds (state : PortState) (external : Endpoint) : Bool :=
  state.statics.keys.any (·.port == external.port) || state.table.usesExternal external

/-- The state with the ports of expired flows back in the pool, if they are to be reclaimed. -/
def reclaimed (state : PortState) (reclaim : Bool) : PortState :=
  let (expired, table) := state.table.takeReleased
  expired.foldl (fun state flow =>
      -- Another flow may still use the port towards a different remote socket.
      if reclaim && !state.holds flow.external then
        { state with pool := state.pool.release flow.external.port }
      else state)
    { state with table }

/-- The flow of an internal socket to a remote one; a new one takes a port of the pool. -/
def outbound (state : PortState) (reclaim : Bool) (externalAddress : Address .v4) (now : Nat)
    (internal remote : Endpoint) : Option Flow × PortState :=
  let (found, table) := state.table.lookupOutbound now internal remote
  let state := { state with table }.reclaimed reclaim
  match found with
  | some flow => (some flow, state)
  | none =>
    match state.pool.take with
    | (none, _) => (none, state)
    | (some port, pool) =>
      let flow := Flow.fresh internal ⟨externalAddress, port⟩ remote true now
      (some flow, { state with pool, table := state.table.add now flow })

/-- The flow of a remote socket to an external one; a new one needs a static mapping. -/
def inbound (state : PortState) (reclaim : Bool) (now : Nat) (remote external : Endpoint) :
    Option Flow × PortState :=
  let (found, table) := state.table.lookupInbound now remote external
  let state := { state with table }.reclaimed reclaim
  match found with
  | some flow => (some flow, state)
  | none =>
    match state.statics.get? external with
    | none => (none, state)
    -- The port belongs to the mapping, so the flow does not take one of the pool.
    | some internal =>
      let flow := Flow.fresh internal external remote false now
      (some flow, { state with table := state.table.add now flow })

end PortState

/-- The tracking state of ICMP echo. -/
structure EchoState where
  /-- An index tells the identifiers in use, since there may be tens of thousands. -/
  indexed : IndexedTable
  /-- The identifier handed out last. -/
  lastId : UInt16

namespace EchoState

/-- The tracked flows. -/
def table (state : EchoState) : FlowTable := state.indexed.toTable

/-- The first identifier after `last` that is not zero and unused, within so many steps. -/
def freeId (table : IndexedTable) (externalAddress : Address .v4) :
    Nat → UInt16 → Option UInt16 × UInt16
  | 0, last => (none, last)
  | steps + 1, last =>
    let next := last + 1
    -- Identifiers wrap around, and zero stays unused.
    if next ≠ 0 && !table.usesExternal ⟨externalAddress, next⟩ then (some next, next)
    else freeId table externalAddress steps next

/-- An unused identifier; the search ends before it comes back to where it started. -/
def allocateId (state : EchoState) (externalAddress : Address .v4) :
    Option UInt16 × EchoState :=
  let (id, lastId) := freeId state.indexed externalAddress 65535 state.lastId
  (id, { state with lastId })

/-- The flow of an internal identifier to a remote host; a new one takes an unused identifier. -/
def outbound (state : EchoState) (externalAddress : Address .v4) (now : Nat)
    (internal remote : Endpoint) : Option Flow × EchoState :=
  let (found, indexed) := state.indexed.lookupOutbound now internal remote
  let state := { state with indexed := indexed.takeReleased.2 }
  match found with
  | some flow => (some flow, state)
  | none =>
    match state.allocateId externalAddress with
    | (none, state) => (none, state)
    | (some id, state) =>
      let flow := Flow.fresh internal ⟨externalAddress, id⟩ remote false now
      (some flow, { state with indexed := state.indexed.add now flow })

/-- The flow of a remote host to an external identifier. -/
def inbound (state : EchoState) (now : Nat) (remote external : Endpoint) :
    Option Flow × EchoState :=
  let (found, indexed) := state.indexed.lookupInbound now remote external
  (found, { state with indexed := indexed.takeReleased.2 })

end EchoState

/-- An address translator between two interfaces. -/
structure Translator where
  internal : InterfaceId
  external : InterfaceId
  externalAddress : Address .v4
  /-- The on-link prefixes of the internal interface when the translator was set up. -/
  internalNets : List (Prefix .v4)
  reclaimPorts : Bool
  udp : PortState
  tcp : PortState
  icmp : EchoState

namespace Translator

/-- One side of a translator: an interface with its name and addresses. -/
structure Side where
  interface : InterfaceId
  name : String
  addresses : List (InterfaceAddress .v4)

/-- A translator between two different interfaces with a port range that does not start at 0. -/
def create (internal external : Side) (config : TranslatorConfig) (now : Nat) :
    Except Error Translator := do
  -- The causes are checked in this order, and the first one is reported.
  if internal.interface = external.interface then throw .translatorSides
  if config.firstPort = 0 ∨ config.lastPort < config.firstPort then
    throw (.portRange config.firstPort config.lastPort)
  let externalAddress ← match config.externalAddress with
    | some address => pure address
    | none => match external.addresses.find? (·.isUnicast) with
      | some entry => pure entry.address
      | none => throw (.noExternalAddress external.name)
  let table (protocol : TrackedProtocol) : FlowTable :=
    .empty config.entryTimeout config.sweepInterval now (config.releases.order protocol)
  let ports (protocol : PortProtocol) : PortState :=
    ⟨table protocol.tracked, .ofRange config.firstPort config.lastPort, .empty⟩
  return {
    internal := internal.interface
    external := external.interface
    externalAddress
    -- Addresses that the interface gets later are not translated.
    internalNets := (internal.addresses.filter (·.isUnicast)).filterMap (·.net?)
    reclaimPorts := config.reclaimPorts
    udp := ports .udp
    tcp := ports .tcp
    icmp := ⟨.ofTable (table .icmp), 0⟩ }

/-- Whether an address lies in an internal prefix. -/
def isInside (translator : Translator) (address : Address .v4) : Bool :=
  translator.internalNets.any (·.contains address)

/-- Whether an address is internal for a node that owns the addresses selected by `owns`. -/
def isInternal (translator : Translator) (owns : Address .v4 → Bool) (address : Address .v4) :
    Bool :=
  owns address || translator.isInside address

/-- The state of a protocol with ports. -/
def ports (translator : Translator) : PortProtocol → PortState
  | .tcp => translator.tcp
  | .udp => translator.udp

/-- The translator with the state of a protocol with ports replaced. -/
def withPorts (translator : Translator) (protocol : PortProtocol) (state : PortState) :
    Translator :=
  match protocol with
  | .tcp => { translator with tcp := state }
  | .udp => { translator with udp := state }

/-- The port state of a tracked protocol; ICMP has none. -/
def ports? (translator : Translator) : TrackedProtocol → Option PortState
  | .tcp => some translator.tcp
  | .udp => some translator.udp
  | .icmp => none

/-- The tracking table of a protocol. -/
def table (translator : Translator) : TrackedProtocol → FlowTable
  | .tcp => translator.tcp.table
  | .udp => translator.udp.table
  | .icmp => translator.icmp.table

/-- Number of tracked flows of a protocol. -/
def size (translator : Translator) (protocol : TrackedProtocol) : Nat :=
  match protocol with
  | .icmp => translator.icmp.indexed.size
  | protocol => (translator.table protocol).size

/-- Number of tracked flows of all protocols. -/
def totalSize (translator : Translator) : Nat :=
  translator.size .udp + translator.size .tcp + translator.size .icmp

/-- Free ports of a protocol. -/
def availablePorts (translator : Translator) (protocol : TrackedProtocol) : Nat :=
  match translator.ports? protocol with
  | some state => state.pool.available
  | none => 0

/-- The protocol with ports among the tracked ones. -/
def portProtocol? : TrackedProtocol → Option PortProtocol
  | .tcp => some .tcp
  | .udp => some .udp
  | .icmp => none

/-- The translator with a static mapping, whose port leaves the pool. -/
def addStatic (translator : Translator) (protocol : TrackedProtocol)
    (external internal : Endpoint) : Except Error Translator :=
  match portProtocol? protocol with
  | none => .error .staticProtocol
  | some protocol =>
    let state := translator.ports protocol
    .ok (translator.withPorts protocol { state with
      pool := (state.pool.reserve external.port).2
      statics := state.statics.insert external internal })

/-- Whether there was a static mapping, and the translator without it; its port returns to the
pool unless something else holds it. -/
def removeStatic (translator : Translator) (protocol : TrackedProtocol) (external : Endpoint) :
    Bool × Translator :=
  match portProtocol? protocol with
  | none => (false, translator)
  | some protocol =>
    let state := translator.ports protocol
    if state.statics.contains external then
      -- The mapping itself must not count as a holder of the port.
      let state := { state with statics := state.statics.erase external }
      let pool := if state.holds external then state.pool else state.pool.release external.port
      (true, translator.withPorts protocol { state with pool })
    else (false, translator)

/-- The static mappings of a protocol, external socket first. -/
def staticMappings (translator : Translator) (protocol : TrackedProtocol) :
    List (Endpoint × Endpoint) :=
  match translator.ports? protocol with
  | some state => state.statics.entries
  | none => []

/-- Translates a packet with ports that was received on the internal interface. -/
def outboundPorts (translator : Translator) (protocol : PortProtocol) (now : Nat)
    (packet : Ipv4Packet) : Translation × Translator :=
  match protocol.segment? packet.payload with
  | .error cause => (.malformed cause, translator)
  | .ok segment =>
    let internal : Endpoint := ⟨packet.source, Transport.sourcePort segment⟩
    let remote : Endpoint := ⟨packet.destination, Transport.destinationPort segment⟩
    let (flow, state) := (translator.ports protocol).outbound translator.reclaimPorts
      translator.externalAddress now internal remote
    let after := translator.withPorts protocol state
    match flow with
    | none => (.portsExhausted, after)
    | some flow =>
      let segment := protocol.refreshed
        (Transport.withSourcePort segment flow.external.port)
        -- The checksum covers the addresses that the packet will have.
        translator.externalAddress remote.address
      (.translated ((packet.withPayload segment).withSource translator.externalAddress), after)

/-- Translates a packet with ports that was received on the external interface. -/
def inboundPorts (translator : Translator) (protocol : PortProtocol) (now : Nat)
    (packet : Ipv4Packet) : Translation × Translator :=
  match protocol.segment? packet.payload with
  | .error cause => (.malformed cause, translator)
  | .ok segment =>
    let remote : Endpoint := ⟨packet.source, Transport.sourcePort segment⟩
    let external : Endpoint := ⟨packet.destination, Transport.destinationPort segment⟩
    let (flow, state) :=
      (translator.ports protocol).inbound translator.reclaimPorts now remote external
    let after := translator.withPorts protocol state
    match flow with
    | none => (.noMapping, after)
    | some flow =>
      let segment := protocol.refreshed
        (Transport.withDestinationPort segment flow.internal.port)
        remote.address flow.internal.address
      (.translated ((packet.withPayload segment).withDestination flow.internal.address), after)

/-- Translates an echo request that was received on the internal interface. -/
def outboundEcho (translator : Translator) (now : Nat) (packet : Ipv4Packet) :
    Translation × Translator :=
  match IcmpMessage.parse packet.payload with
  | .error cause => (.malformed cause, translator)
  | .ok message =>
    -- Other messages have no identifier that a flow could be told by.
    if !message.isEchoRequest then (.unsupported, translator)
    else
      let internal : Endpoint := ⟨packet.source, message.identifier⟩
      -- A host has one flow for each identifier, whatever its sequence numbers are.
      let remote : Endpoint := ⟨packet.destination, 0⟩
      let (flow, state) :=
        translator.icmp.outbound translator.externalAddress now internal remote
      let after := { translator with icmp := state }
      match flow with
      | none => (.portsExhausted, after)
      | some flow =>
        let message := message.withIdentifier flow.external.port
        (.translated
          ((packet.withPayload message.bytes).withSource translator.externalAddress), after)

/-- Translates an echo reply that was received on the external interface. -/
def inboundEcho (translator : Translator) (now : Nat) (packet : Ipv4Packet) :
    Translation × Translator :=
  match IcmpMessage.parse packet.payload with
  | .error cause => (.malformed cause, translator)
  | .ok message =>
    if !message.isEchoReply then (.unsupported, translator)
    else
      let remote : Endpoint := ⟨packet.source, 0⟩
      let external : Endpoint := ⟨packet.destination, message.identifier⟩
      let (flow, state) := translator.icmp.inbound now remote external
      let after := { translator with icmp := state }
      match flow with
      | none => (.noMapping, after)
      | some flow =>
        let message := message.withIdentifier flow.internal.port
        (.translated
          ((packet.withPayload message.bytes).withDestination flow.internal.address), after)

/-- Translates a packet that was received on the internal interface. -/
def outbound (translator : Translator) (now : Nat) (packet : Ipv4Packet) :
    Translation × Translator :=
  match TrackedProtocol.ofNumber? packet.protocol with
  | some .udp => translator.outboundPorts .udp now packet
  | some .tcp => translator.outboundPorts .tcp now packet
  | some .icmp => translator.outboundEcho now packet
  | none => (.unsupported, translator)

/-- Translates a packet that was received on the external interface. -/
def inbound (translator : Translator) (now : Nat) (packet : Ipv4Packet) :
    Translation × Translator :=
  match TrackedProtocol.ofNumber? packet.protocol with
  | some .udp => translator.inboundPorts .udp now packet
  | some .tcp => translator.inboundPorts .tcp now packet
  | some .icmp => translator.inboundEcho now packet
  | none => (.unsupported, translator)

/-- What a translation adds to the metrics by itself. -/
def exhaustionTally : Translation → List Tally
  | .portsExhausted => [.one .portsExhausted]
  | _ => []

/-- Takes a packet in on an interface of a node that owns the addresses selected by `owns`: it is
passed on, translated or not, or dropped. -/
def receive (translator : Translator) (now : Nat) (owns : Address .v4 → Bool)
    (ingress : InterfaceId) (packet : Ipv4Packet) :
    Option Ipv4Packet × Translator × List Tally :=
  -- A packet to the node or between internal hosts does not leave.
  let concerned := translator.isInternal owns packet.destination
  if ingress = translator.internal then
    if concerned then (some packet, translator, [])
    else settle .translatedOut (translator.outbound now packet)
  else if ingress = translator.external then
    if concerned then settle .translatedIn (translator.inbound now packet)
    else (some packet, translator, [])
  else (some packet, translator, [])
where
  /-- Counts a translation, and drops the packet if there is none. -/
  settle (counter : Counter) :
      Translation × Translator → Option Ipv4Packet × Translator × List Tally
    | (.translated packet, after) =>
      (some packet, after, [.one counter, .translations after.totalSize])
    | (failure, after) => (none, after, exhaustionTally failure ++ [.one .translationDropped])

end Translator

end NetworkLayer
