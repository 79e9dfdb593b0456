import NetworkLayer.Dictionary

/-! Counters and gauges of the network layer, in total and per interface, modulo 2^64. -/

namespace NetworkLayer

/-- Something that is counted in total. -/
inductive Counter
  | packetsDelivered
  | packetsForwarded
  | packetsDropped
  | ttlExpired
  | noRoute
  | echoReplies
  | timeExceededSent
  | unreachableSent
  | translatedOut
  | translatedIn
  | translationDropped
  | portsExhausted
  | resolutionRequests
  | resolutionReplies
  | resolutionHits
  | resolutionFailures
deriving DecidableEq, Repr

namespace Counter

/-- All counters, in the order of the export. -/
def all : List Counter :=
  [packetsDelivered, packetsForwarded, packetsDropped, ttlExpired, noRoute, echoReplies,
    timeExceededSent, unreachableSent, translatedOut, translatedIn, translationDropped,
    portsExhausted, resolutionRequests, resolutionReplies, resolutionHits, resolutionFailures]

/-- The name of a counter in the export. -/
def label : Counter → String
  | packetsDelivered => "packets_delivered"
  | packetsForwarded => "packets_forwarded"
  | packetsDropped => "packets_dropped"
  | ttlExpired => "ttl_expired"
  | noRoute => "no_route"
  | echoReplies => "icmp_echo_replies"
  | timeExceededSent => "icmp_time_exceeded_sent"
  | unreachableSent => "icmp_dest_unreachable_sent"
  | translatedOut => "nat_translated_out"
  | translatedIn => "nat_translated_in"
  | translationDropped => "nat_dropped"
  | portsExhausted => "nat_pool_exhausted"
  | resolutionRequests => "resolution_requests_sent"
  | resolutionReplies => "resolution_replies_sent"
  | resolutionHits => "resolution_cache_hits"
  | resolutionFailures => "resolution_failures"

end Counter

/-- What is counted for one interface. -/
structure Traffic where
  receivedPackets : UInt64 := 0
  receivedBytes : UInt64 := 0
  sentPackets : UInt64 := 0
  sentBytes : UInt64 := 0
  receiveDrops : UInt64 := 0
  sendDrops : UInt64 := 0
deriving DecidableEq, Repr

/-- The figures of one interface, named as in the export. -/
def Traffic.figures (traffic : Traffic) : List (String × UInt64) :=
  [("rx_packets", traffic.receivedPackets), ("rx_bytes", traffic.receivedBytes),
    ("tx_packets", traffic.sentPackets), ("tx_bytes", traffic.sentBytes),
    ("rx_drops", traffic.receiveDrops), ("tx_drops", traffic.sendDrops)]

/-- One change of the metrics. -/
inductive Tally
  /-- A counter goes up. -/
  | count (counter : Counter) (amount : UInt64)
  /-- An interface name gets figures of its own. -/
  | register (interface : String)
  /-- An interface received a packet of so many bytes. -/
  | received (interface : String) (size : Nat)
  /-- An interface was handed a packet of so many bytes. -/
  | sent (interface : String) (size : Nat)
  /-- An interface dropped a received packet. -/
  | receiveDrop (interface : String)
  /-- An interface dropped a packet to send. -/
  | sendDrop (interface : String)
  /-- The gauge of tracked translations moves. -/
  | translations (entries : Nat)
  /-- The gauge of routes moves. -/
  | routes (entries : Nat)
deriving DecidableEq

/-- The tally of one event. -/
def Tally.one (counter : Counter) : Tally := .count counter 1

/-- Counters, gauges and the figures of the registered interfaces. -/
structure Metrics where
  counts : Dictionary Counter UInt64
  translations : UInt64
  routes : UInt64
  interfaces : Dictionary String Traffic
deriving DecidableEq

namespace Metrics

/-- Nothing counted yet. -/
def empty : Metrics := ⟨.empty, 0, 0, .empty⟩

instance : Inhabited Metrics := ⟨empty⟩

/-- The value of a counter. -/
def count (metrics : Metrics) (counter : Counter) : UInt64 :=
  (metrics.counts.get? counter).getD 0

/-- The metrics with the figures of an interface changed, if it is registered. -/
def forInterface (metrics : Metrics) (interface : String) (change : Traffic → Traffic) :
    Metrics :=
  { metrics with interfaces := metrics.interfaces.modify interface change }

/-- The metrics after one change. -/
def tally (metrics : Metrics) : Tally → Metrics
  | .count counter amount =>
    { metrics with counts := metrics.counts.insert counter (metrics.count counter + amount) }
  | .register interface =>
    -- Registering again does not set figures back.
    if metrics.interfaces.contains interface then metrics
    else { metrics with interfaces := metrics.interfaces.insert interface {} }
  | .received interface size => metrics.forInterface interface fun traffic =>
    { traffic with
      receivedPackets := traffic.receivedPackets + 1
      receivedBytes := traffic.receivedBytes + UInt64.ofNat size }
  | .sent interface size => metrics.forInterface interface fun traffic =>
    { traffic with
      sentPackets := traffic.sentPackets + 1
      sentBytes := traffic.sentBytes + UInt64.ofNat size }
  | .receiveDrop interface => metrics.forInterface interface fun traffic =>
    { traffic with receiveDrops := traffic.receiveDrops + 1 }
  | .sendDrop interface => metrics.forInterface interface fun traffic =>
    { traffic with sendDrops := traffic.sendDrops + 1 }
  | .translations entries => { metrics with translations := UInt64.ofNat entries }
  | .routes entries => { metrics with routes := UInt64.ofNat entries }

/-- The metrics after a list of changes. -/
def record (metrics : Metrics) (tallies : List Tally) : Metrics :=
  tallies.foldl tally metrics

/-- Counters and gauges in a fixed order, then the figures of the interfaces by name. -/
def figures (metrics : Metrics) : List (String × UInt64) :=
  -- The order of registration does not show.
  let names := metrics.interfaces.keys.mergeSort fun a b => decide (a ≤ b)
  Counter.all.map (fun counter => (counter.label, metrics.count counter)) ++
    [("nat_entries", metrics.translations), ("route_count", metrics.routes)] ++
    names.flatMap fun name =>
      ((metrics.interfaces.get? name).getD {}).figures.map fun (figure, value) =>
        (name ++ "_" ++ figure, value)

end Metrics

end NetworkLayer
