import NetworkLayer.Translation.FlowTable
import Std.Data.TreeSet

/-!
A flow table for many flows. The last flow stands first, so that adding one does not copy the others,
and the sockets in use stand in an index, so that a socket without a flow is known without a walk.
-/

namespace NetworkLayer

namespace Endpoint

/-- The socket as one number, below 2 to the 48th. -/
def code (endpoint : Endpoint) : Nat :=
  endpoint.address.number * 65536 + endpoint.port.toNat

/-- Two sockets as one number. -/
def pairCode (internal remote : Endpoint) : Nat :=
  remote.code * 281474976710656 + internal.code

end Endpoint

/-- Flows with an index of the sockets that they tie. -/
structure FlowLog where
  /-- The last one first. -/
  recent : List Flow
  size : Nat
  /-- The codes of the external sockets. -/
  externals : Std.TreeSet Nat
  /-- The codes of the internal sockets with the remote ones. -/
  pairs : Std.TreeSet Nat
  size_eq : size = recent.length
  externals_eq : externals = recent.foldr (fun flow codes => codes.insert flow.external.code) ∅
  pairs_eq : pairs =
    recent.foldr (fun flow codes => codes.insert (Endpoint.pairCode flow.internal flow.remote)) ∅

namespace FlowLog

/-- No flows. -/
def empty : FlowLog := ⟨[], 0, ∅, ∅, rfl, rfl, rfl⟩

/-- The flows with one more. -/
def push (log : FlowLog) (flow : Flow) : FlowLog where
  recent := flow :: log.recent
  size := log.size + 1
  externals := log.externals.insert flow.external.code
  pairs := log.pairs.insert (Endpoint.pairCode flow.internal flow.remote)
  size_eq := by rw [log.size_eq, List.length_cons]
  externals_eq := by rw [log.externals_eq, List.foldr_cons]
  pairs_eq := by rw [log.pairs_eq, List.foldr_cons]

/-- The flows of a list, in its order. -/
def ofList (flows : List Flow) : FlowLog := flows.foldl push empty

/-- The flows in the order in which they were added. -/
def flows (log : FlowLog) : List Flow := log.recent.reverse

/-- Logs of the same flows are the same, since the index follows from the flows. -/
theorem eq_of_recent {left right : FlowLog} (same : left.recent = right.recent) : left = right := by
  rcases left with ⟨recent, size, externals, pairs, rfl, rfl, rfl⟩
  rcases right with ⟨other, size, externals, pairs, rfl, rfl, rfl⟩
  cases same
  rfl

instance : DecidableEq FlowLog := fun left right =>
  decidable_of_iff (left.recent = right.recent) ⟨eq_of_recent, congrArg recent⟩

end FlowLog

/-- The flows of one protocol in a log, and those that expired and still hold their ports. -/
structure IndexedTable where
  timeout : Nat
  sweepInterval : Nat
  order : ReleaseOrder
  lastSweep : Nat
  log : FlowLog
  released : List Flow

namespace IndexedTable

/-- The same flows in a table. -/
def toTable (table : IndexedTable) : FlowTable :=
  ⟨table.timeout, table.sweepInterval, table.order, table.lastSweep, table.log.flows, table.released⟩

/-- The flows of a table with an index. -/
def ofTable (table : FlowTable) : IndexedTable :=
  ⟨table.timeout, table.sweepInterval, table.order, table.lastSweep, .ofList table.flows, table.released⟩

/-- Number of tracked flows. -/
def size (table : IndexedTable) : Nat := table.log.size

/-- Whether the last sweep is longer ago than the interval. -/
def isDue (table : IndexedTable) (now : Nat) : Bool :=
  table.lastSweep + table.sweepInterval < now

/-- The flow that an internal socket uses to talk to a remote one. -/
def lookupOutbound (table : IndexedTable) (now : Nat) (internal remote : Endpoint) :
    Option Flow × IndexedTable :=
  if table.isDue now || table.log.pairs.contains (Endpoint.pairCode internal remote) then
    (table.toTable.lookupOutbound now internal remote).map id ofTable
  -- Without a flow between the two sockets there is nothing to walk for.
  else (none, table)

/-- The flow that a remote socket reaches by sending to an external one. -/
def lookupInbound (table : IndexedTable) (now : Nat) (remote external : Endpoint) :
    Option Flow × IndexedTable :=
  (table.toTable.lookupInbound now remote external).map id ofTable

/-- The table with a flow at the end. -/
def add (table : IndexedTable) (now : Nat) (flow : Flow) : IndexedTable :=
  if table.isDue now then ofTable (table.toTable.add now flow)
  else { table with log := table.log.push flow }

/-- The flows that expired since the last time, and the table without them. -/
def takeReleased (table : IndexedTable) : List Flow × IndexedTable :=
  (table.released, { table with released := [] })

/-- Whether a tracked flow, live or not, translates to an external socket. -/
def usesExternal (table : IndexedTable) (external : Endpoint) : Bool :=
  table.log.externals.contains external.code

end IndexedTable

end NetworkLayer
