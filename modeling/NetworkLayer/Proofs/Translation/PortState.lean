import NetworkLayer.Proofs.Dictionary
import NetworkLayer.Proofs.Translation.FlowTable
import NetworkLayer.Proofs.Translation.PortPool
import NetworkLayer.Translation.Translator

/-!
What one operation does to the tracking state of a protocol with ports: each of them is a look-up,
ports given back, and at most one flow or mapping more or less.
-/

namespace NetworkLayer.PortState

/-- The state with the port of a socket given back, unless something holds it. -/
def freed (state : PortState) (socket : Endpoint) : PortState :=
  if state.holds socket then state else { state with pool := state.pool.release socket.port }

/-- The state with a static mapping, whose port leaves the pool. -/
def mapped (state : PortState) (external internal : Endpoint) : PortState :=
  { state with
    pool := (state.pool.reserve external.port).2
    statics := state.statics.insert external internal }

/-- The state without a static mapping, whose port is given back. -/
def unmapped (state : PortState) (external : Endpoint) : PortState :=
  if state.statics.contains external then
    freed { state with statics := state.statics.erase external } external
  else state

/-- The state after a look-up in its table, with the ports of expired flows given back. -/
def consulted (state : PortState) (reclaim : Bool) (now : Nat) (selected : Flow → Bool) :
    PortState :=
  reclaimed { state with table := (state.table.lookup now selected).2 } reclaim

/-- The state with one flow more. -/
def opened (state : PortState) (flow : Flow) : PortState :=
  { state with table := { state.table with flows := state.table.flows ++ [flow] } }

section Freed

variable (state : PortState) (socket : Endpoint)

/-- Giving a port back leaves the table alone. -/
@[simp] theorem freed_table : (state.freed socket).table = state.table := by
  -- Only the pool may change.
  rw [freed]
  split
  · rfl
  · rfl

/-- Giving a port back leaves the mappings alone. -/
@[simp] theorem freed_statics : (state.freed socket).statics = state.statics := by
  rw [freed]
  split
  · rfl
  · rfl

/-- Giving a port back does not move the range. -/
@[simp] theorem freed_inRange (port : UInt16) :
    (state.freed socket).pool.inRange port = state.pool.inRange port := by
  rw [freed]
  split
  · rfl
  · exact PortPool.release_inRange ..

end Freed

/-- A socket is held by a mapping of its port or by a flow of its own. -/
theorem holds_iff {state : PortState} {socket : Endpoint} :
    state.holds socket ↔ (∃ mapping ∈ state.statics.keys, mapping.port = socket.port) ∨
      ∃ flow ∈ state.table.flows, flow.external = socket := by
  simp [holds, FlowTable.usesExternal]

/-- Ports are reclaimed one expired flow after the other. -/
theorem reclaimed_eq (state : PortState) (reclaim : Bool) :
    state.reclaimed reclaim = state.table.released.foldl
      (fun state flow => if reclaim then state.freed flow.external else state)
      { state with table := { state.table with released := [] } } := by
  rw [reclaimed]
  simp only [FlowTable.takeReleased]
  congr 1
  funext state flow
  -- Both sides give the port back exactly when it is to be reclaimed and nothing holds it.
  cases reclaim with
  | false => simp
  | true => cases held : state.holds flow.external <;> simp [freed, held]

/--
What survives the return of one port survives the reclaiming of all expired flows.

The property may depend on the flows whose ports are still to be given back.
-/
theorem reclaimed_induction (property : List Flow → PortState → Prop) {state : PortState}
    {reclaim : Bool}
    (step : ∀ flow rest state, property (flow :: rest) state →
      property rest (if reclaim then state.freed flow.external else state))
    (start : property state.table.released
      { state with table := { state.table with released := [] } }) :
    property [] (state.reclaimed reclaim) := by
  rw [reclaimed_eq]
  generalize state.table.released = expired at start ⊢
  generalize PortState.mk _ _ _ = current at start ⊢
  -- The induction is on the expired flows; each step gives one port back or none.
  induction expired generalizing current with
  | nil => exact start
  | cons flow rest ih => exact ih _ (step flow rest current start)

section Consulted

variable (state : PortState) (reclaim : Bool) (now : Nat) (selected : Flow → Bool)

/-- Reclaiming only empties the list of expired flows. -/
theorem reclaimed_table :
    (state.reclaimed reclaim).table = { state.table with released := [] } := by
  -- No step of the reclaiming touches the table.
  refine reclaimed_induction (fun _ after => after.table = { state.table with released := [] })
    (fun flow _ after same => ?_) rfl
  split
  · rw [freed_table, same]
  · exact same

/-- Reclaiming leaves the mappings alone. -/
theorem reclaimed_statics : (state.reclaimed reclaim).statics = state.statics := by
  -- No step of the reclaiming touches the mappings.
  refine reclaimed_induction (fun _ after => after.statics = state.statics)
    (fun flow _ after same => ?_) rfl
  split
  · rw [freed_statics, same]
  · exact same

/-- Reclaiming does not move the range. -/
theorem reclaimed_inRange (port : UInt16) :
    (state.reclaimed reclaim).pool.inRange port = state.pool.inRange port := by
  -- No step of the reclaiming touches the ends of the range.
  refine reclaimed_induction
    (fun _ after => after.pool.inRange port = state.pool.inRange port)
    (fun flow _ after same => ?_) rfl
  split
  · rw [freed_inRange, same]
  · exact same

/-- A look-up empties the list of expired flows. -/
theorem consulted_table : (state.consulted reclaim now selected).table =
    { (state.table.lookup now selected).2 with released := [] } := by
  rw [consulted, reclaimed_table]

/-- A look-up leaves the mappings alone. -/
theorem consulted_statics : (state.consulted reclaim now selected).statics = state.statics := by
  rw [consulted, reclaimed_statics]

/-- A look-up does not move the range. -/
theorem consulted_inRange (port : UInt16) :
    (state.consulted reclaim now selected).pool.inRange port = state.pool.inRange port := by
  rw [consulted, reclaimed_inRange]

/-- After a look-up a new flow is just added, since no sweep is due. -/
theorem consulted_add (flow : Flow) :
    (state.consulted reclaim now selected).table.add now flow =
      ((state.consulted reclaim now selected).opened flow).table := by
  -- A sweep that is due was made by the look-up, and none is due at the same time again.
  have swept := (state.table.lookup_aged now selected).swept
  rw [FlowTable.add, opened, consulted_table, FlowTable.sweepIfDue, if_neg swept]

end Consulted

/-- A look-up that selects nothing leaves a state alone that is settled and swept. -/
theorem consulted_of_unselected {state : PortState} {now : Nat} (reclaim : Bool)
    {selected : Flow → Bool}
    (settled : state.table.released = [])
    (swept : ¬ state.table.lastSweep + state.table.sweepInterval < now)
    (unselected : ∀ flow ∈ state.table.flows, selected flow = false) :
    (state.table.lookup now selected).1 = none ∧ state.consulted reclaim now selected = state := by
  have same : state.table.sweepIfDue now = state.table := if_neg swept
  have nothing : state.table.flows.find? selected = none :=
    List.find?_eq_none.mpr fun flow tracked => by simp [unselected flow tracked]
  have result : state.table.lookup now selected = (none, state.table) := by
    simp only [FlowTable.lookup, same, nothing]
  -- Nothing waits to be given back, so reclaiming has nothing to do either.
  rcases state with ⟨⟨timeout, interval, lastSweep, flows, released⟩, pool, statics⟩
  simp only at settled
  subst settled
  exact ⟨by rw [result], by rw [consulted, result]; rfl⟩

/-- Chooses the flows from an internal socket to a remote one. -/
abbrev leaving (internal remote : Endpoint) : Flow → Bool :=
  fun flow => flow.remote == remote && flow.internal == internal

/-- Chooses the flows from a remote socket to an external one. -/
abbrev arriving (remote external : Endpoint) : Flow → Bool :=
  fun flow => flow.remote == remote && flow.external == external

/-- A packet without a flow gets one if the pool has a port left. -/
theorem outbound_eq (state : PortState) (reclaim : Bool) (externalAddress : Address .v4)
    (now : Nat) (internal remote : Endpoint) {after : PortState}
    (consulted : state.consulted reclaim now (leaving internal remote) = after) :
    state.outbound reclaim externalAddress now internal remote =
      match (state.table.lookup now (leaving internal remote)).1 with
      | some flow => (some flow, after)
      | none => match after.pool.take with
        | (none, _) => (none, after)
        | (some port, pool) =>
          let flow := Flow.fresh internal ⟨externalAddress, port⟩ remote true now
          (some flow, { after with pool, table := after.table.add now flow }) := by
  subst consulted
  rfl

/--
A packet from the inside leaves through the flow that is found, or else through a new one.

A new flow takes the first free port, and without one there is no flow.
-/
theorem outbound_cases (state : PortState) (reclaim : Bool) (externalAddress : Address .v4)
    (now : Nat) (internal remote : Endpoint) :
    let after := state.consulted reclaim now (leaving internal remote)
    (∃ flow, (state.table.lookup now (leaving internal remote)).1 = some flow ∧
      state.outbound reclaim externalAddress now internal remote = (some flow, after)) ∨
    (state.table.lookup now (leaving internal remote)).1 = none ∧
      ((after.pool.free = [] ∧
        state.outbound reclaim externalAddress now internal remote = (none, after)) ∨
      ∃ port rest, after.pool.free = port :: rest ∧
        let flow := Flow.fresh internal ⟨externalAddress, port⟩ remote true now
        state.outbound reclaim externalAddress now internal remote =
          (some flow, opened { after with pool := { after.pool with free := rest } } flow)) := by
  intro after
  have result := state.outbound_eq reclaim externalAddress now internal remote
    (show _ = after from rfl)
  -- The pool is asked only if no flow is found.
  cases found : (state.table.lookup now (leaving internal remote)).1 with
  | some flow => exact Or.inl ⟨flow, rfl, by rw [result, found]⟩
  | none =>
    refine Or.inr ⟨rfl, ?_⟩
    rcases after.pool.take_cases with ⟨empty, taken⟩ | ⟨port, rest, order, taken⟩
    · exact Or.inl ⟨empty, by rw [result, found, taken]⟩
    · refine Or.inr ⟨port, rest, order, ?_⟩
      simp only [result, found, taken]
      rw [consulted_add]
      rfl

/-- A packet without a flow gets one if a mapping leads from its external socket. -/
theorem inbound_eq (state : PortState) (reclaim : Bool) (now : Nat) (remote external : Endpoint)
    {after : PortState}
    (consulted : state.consulted reclaim now (arriving remote external) = after) :
    state.inbound reclaim now remote external =
      match (state.table.lookup now (arriving remote external)).1 with
      | some flow => (some flow, after)
      | none => match after.statics.get? external with
        | none => (none, after)
        | some internal =>
          let flow := Flow.fresh internal external remote false now
          (some flow, { after with table := after.table.add now flow }) := by
  subst consulted
  rfl

/-- A packet from the outside arrives through the flow that is found, or else through a new one to
the internal socket that is mapped. -/
theorem inbound_cases (state : PortState) (reclaim : Bool) (now : Nat)
    (remote external : Endpoint) :
    let after := state.consulted reclaim now (arriving remote external)
    (∃ flow, (state.table.lookup now (arriving remote external)).1 = some flow ∧
      state.inbound reclaim now remote external = (some flow, after)) ∨
    (state.table.lookup now (arriving remote external)).1 = none ∧
      ((state.statics.get? external = none ∧
        state.inbound reclaim now remote external = (none, after)) ∨
      ∃ internal, state.statics.get? external = some internal ∧
        let flow := Flow.fresh internal external remote false now
        state.inbound reclaim now remote external = (some flow, after.opened flow)) := by
  intro after
  have result := state.inbound_eq reclaim now remote external (show _ = after from rfl)
  have kept : after.statics = state.statics := consulted_statics ..
  -- A mapping is asked for only if no flow is found.
  cases found : (state.table.lookup now (arriving remote external)).1 with
  | some flow => exact Or.inl ⟨flow, rfl, by rw [result, found]⟩
  | none =>
    refine Or.inr ⟨rfl, ?_⟩
    cases mapping : after.statics.get? external with
    | none => exact Or.inl ⟨kept ▸ mapping, by rw [result, found, mapping]⟩
    | some internal =>
      refine Or.inr ⟨internal, kept ▸ mapping, ?_⟩
      simp only [result, found, mapping]
      rw [consulted_add]
      rfl

/-- What one operation makes of the state; only allowed sockets are mapped. -/
inductive Change (allowed : Endpoint → Prop) (reclaim : Bool) (externalAddress : Address .v4)
    (now : Nat) (state : PortState) : PortState → Prop
  | same : Change allowed reclaim externalAddress now state state
  | outbound (internal remote : Endpoint) : Change allowed reclaim externalAddress now state
      (state.outbound reclaim externalAddress now internal remote).2
  | inbound (remote external : Endpoint) : Change allowed reclaim externalAddress now state
      (state.inbound reclaim now remote external).2
  | mapped (external internal : Endpoint) (permitted : allowed external) :
      Change allowed reclaim externalAddress now state (state.mapped external internal)
  | unmapped (external : Endpoint) :
      Change allowed reclaim externalAddress now state (state.unmapped external)

/-- Taking a mapping out leaves the table alone. -/
theorem unmapped_table (state : PortState) (external : Endpoint) :
    (state.unmapped external).table = state.table := by
  rw [unmapped]
  split
  · exact freed_table ..
  · rfl

/-- Taking a mapping out does not move the range. -/
theorem unmapped_inRange (state : PortState) (external : Endpoint) (port : UInt16) :
    (state.unmapped external).pool.inRange port = state.pool.inRange port := by
  rw [unmapped]
  split
  · exact freed_inRange ..
  · rfl

/-- A look-up keeps the live flows. -/
theorem consulted_keeps (state : PortState) (reclaim : Bool) (now : Nat)
    (selected : Flow → Bool) :
    state.table.Keeps (state.consulted reclaim now selected).table now := by
  have aged := state.table.lookup_aged now selected
  -- The flows that were released are not among the live ones.
  rw [consulted_table]
  exact ⟨aged.timeout, aged.live⟩

/-- Every operation keeps the live flows. -/
theorem Change.keeps {allowed : Endpoint → Prop} {reclaim : Bool} {externalAddress : Address .v4}
    {now : Nat} {state after : PortState}
    (change : Change allowed reclaim externalAddress now state after) :
    state.table.Keeps after.table now := by
  -- Nothing but a look-up touches the flows that are there.
  cases change with
  | same => exact FlowTable.Keeps.refl ..
  | mapped external internal => exact FlowTable.Keeps.refl ..
  | unmapped external =>
    rw [unmapped_table]
    exact FlowTable.Keeps.refl ..
  | outbound internal remote =>
    have kept := state.consulted_keeps reclaim now (leaving internal remote)
    rcases state.outbound_cases reclaim externalAddress now internal remote with
      ⟨flow, -, result⟩ | ⟨-, ⟨-, result⟩ | ⟨port, rest, -, result⟩⟩
    · rwa [result]
    · rwa [result]
    · rw [result]
      exact kept.added _
  | inbound remote external =>
    have kept := state.consulted_keeps reclaim now (arriving remote external)
    rcases state.inbound_cases reclaim now remote external with
      ⟨flow, -, result⟩ | ⟨-, ⟨-, result⟩ | ⟨internal, -, result⟩⟩
    · rwa [result]
    · rwa [result]
    · rw [result]
      exact kept.added _

end NetworkLayer.PortState
