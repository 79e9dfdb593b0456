import NetworkLayer.Address

/-!
The tracking table of a translator. A flow ties an internal socket to a remote one through an
external socket, and expires when it has been idle for the timeout.
-/

namespace NetworkLayer

/-- A socket: an address with a port, or with an echo identifier in its place. -/
structure Endpoint where
  address : Address .v4
  port : UInt16
deriving DecidableEq

/-- One tracked flow; times are in milliseconds. -/
structure Flow where
  internal : Endpoint
  external : Endpoint
  remote : Endpoint
  /-- Whether the external port was taken from the pool. -/
  dynamic : Bool
  created : Nat
  lastSeen : Nat
deriving DecidableEq

namespace Flow

/-- A flow seen for the first time. -/
def fresh (internal external remote : Endpoint) (dynamic : Bool) (now : Nat) : Flow :=
  ⟨internal, external, remote, dynamic, now, now⟩

/-- Whether the flow has been idle for less than the timeout. -/
def isLive (flow : Flow) (timeout now : Nat) : Bool :=
  now < flow.lastSeen + timeout

end Flow

/-- The order in which a sweep at a time comes upon some flows. Nothing is promised but that it comes upon each. -/
structure ReleaseOrder where
  arrange : Nat → List Flow → List Flow
  perm : ∀ now flows, (arrange now flows).Perm flows

/-- The order in which the flows were added. -/
def ReleaseOrder.asAdded : ReleaseOrder := ⟨fun _ flows => flows, fun _ _ => .refl _⟩

/-- The flows of one protocol, and those that expired and still hold their ports. -/
structure FlowTable where
  timeout : Nat
  sweepInterval : Nat
  order : ReleaseOrder
  lastSweep : Nat
  /-- In the order in which they were added. -/
  flows : List Flow
  released : List Flow

namespace FlowTable

/-- The table without flows. -/
def empty (timeout sweepInterval now : Nat) (order : ReleaseOrder := .asAdded) : FlowTable :=
  ⟨timeout, sweepInterval, order, now, [], []⟩

/-- Number of tracked flows. -/
def size (table : FlowTable) : Nat := table.flows.length

/-- Whether no flow is tracked. -/
def isEmpty (table : FlowTable) : Bool := table.flows.isEmpty

/-- The table with its expired flows released. -/
def sweep (table : FlowTable) (now : Nat) : FlowTable :=
  { table with
    flows := table.flows.filter (·.isLive table.timeout now)
    released := table.released ++
      table.order.arrange now (table.flows.filter fun flow => !flow.isLive table.timeout now)
    lastSweep := now }

/-- The table, swept if the last sweep is longer ago than the interval. -/
def sweepIfDue (table : FlowTable) (now : Nat) : FlowTable :=
  -- Between sweeps an expired flow still counts for the size.
  if table.lastSweep + table.sweepInterval < now then table.sweep now else table

/-- The flows with the first selected one seen now. -/
def touchFirst (selected : Flow → Bool) (now : Nat) : List Flow → List Flow
  | [] => []
  | flow :: rest =>
    if selected flow then { flow with lastSeen := now } :: rest
    else flow :: touchFirst selected now rest

/-- The first selected flow, seen now if it is live and released if it has expired. -/
def lookup (table : FlowTable) (now : Nat) (selected : Flow → Bool) : Option Flow × FlowTable :=
  -- Flows that nobody asks for any more go with the sweep.
  let table := table.sweepIfDue now
  match table.flows.find? selected with
  | none => (none, table)
  | some flow =>
    if flow.isLive table.timeout now then
      (some { flow with lastSeen := now },
        { table with flows := touchFirst selected now table.flows })
    else
      (none, { table with
        -- Its port has to go back to the pool, so the flow is not just forgotten.
        flows := table.flows.eraseP selected
        released := table.released ++ [flow] })

/-- The flow that an internal socket uses to talk to a remote one. -/
def lookupOutbound (table : FlowTable) (now : Nat) (internal remote : Endpoint) :
    Option Flow × FlowTable :=
  table.lookup now fun flow => flow.remote == remote && flow.internal == internal

/-- The flow that a remote socket reaches by sending to an external one. -/
def lookupInbound (table : FlowTable) (now : Nat) (remote external : Endpoint) :
    Option Flow × FlowTable :=
  table.lookup now fun flow => flow.remote == remote && flow.external == external

/-- The table with a flow at the end. -/
def add (table : FlowTable) (now : Nat) (flow : Flow) : FlowTable :=
  let table := table.sweepIfDue now
  { table with flows := table.flows ++ [flow] }

/-- Whether a flow between these sockets was tracked, and the table without the first one. -/
def remove (table : FlowTable) (internal external remote : Endpoint) : Bool × FlowTable :=
  let selected := fun flow : Flow =>
    flow.remote == remote && flow.internal == internal && flow.external == external
  (table.flows.any selected, { table with flows := table.flows.eraseP selected })

/-- The flows that expired since the last time, and the table without them. -/
def takeReleased (table : FlowTable) : List Flow × FlowTable :=
  (table.released, { table with released := [] })

/-- Whether a tracked flow, live or not, translates to an external socket. -/
def usesExternal (table : FlowTable) (external : Endpoint) : Bool :=
  table.flows.any (·.external == external)

end FlowTable

end NetworkLayer
