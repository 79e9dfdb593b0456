import NetworkLayer.Proofs.Translation.FlowTable
import NetworkLayer.Proofs.Translation.IndexedTable
import NetworkLayer.Translation.Translator

/-! Echo identifiers: no two tracked flows have the same one, so an echo belongs to one request. -/

namespace NetworkLayer.EchoState

/-- The state with the flows of a table. -/
def ofTable (table : FlowTable) (lastId : UInt16) : EchoState := ⟨.ofTable table, lastId⟩

/-- The table of a state is the one that it was made from. -/
@[simp] theorem ofTable_table (table : FlowTable) (lastId : UInt16) :
    (ofTable table lastId).table = table :=
  IndexedTable.toTable_ofTable table

/-- The state after a look-up in its table; expired flows are forgotten. -/
def consulted (state : EchoState) (now : Nat) (selected : Flow → Bool) : EchoState :=
  ofTable { (state.table.lookup now selected).2 with released := [] } state.lastId

/-- A look-up empties the list of expired flows. -/
@[simp] theorem consulted_table (state : EchoState) (now : Nat) (selected : Flow → Bool) :
    (state.consulted now selected).table =
      { (state.table.lookup now selected).2 with released := [] } :=
  ofTable_table ..

/-- A free identifier is used by no tracked flow. -/
theorem freeId_unused {table : IndexedTable} {externalAddress : Address .v4} {steps : Nat}
    {last id : UInt16} (free : (freeId table externalAddress steps last).1 = some id) :
    ∀ flow ∈ table.toTable.flows, flow.external ≠ ⟨externalAddress, id⟩ := by
  -- The induction is on the steps of the search, which ends at the first identifier that is unused.
  induction steps generalizing last with
  | zero => simp [freeId] at free
  | succ steps ih =>
    simp only [freeId] at free
    split at free
    · rename_i unused
      cases free
      simpa [IndexedTable.usesExternal_eq, FlowTable.usesExternal] using
        (Bool.and_eq_true_iff.mp unused).2
    · exact ih free

/-- A request without a flow gets one if an identifier is free. -/
theorem outbound_eq (state : EchoState) (externalAddress : Address .v4) (now : Nat)
    (internal remote : Endpoint) {selected : Flow → Bool}
    (leaving : (fun flow => flow.remote == remote && flow.internal == internal) = selected)
    {after : EchoState} (consulted : state.consulted now selected = after) :
    state.outbound externalAddress now internal remote =
      match (state.table.lookup now selected).1 with
      | some flow => (some flow, after)
      | none => match after.allocateId externalAddress with
        | (none, state) => (none, state)
        | (some id, state) =>
          let flow := Flow.fresh internal ⟨externalAddress, id⟩ remote false now
          (some flow, ofTable (state.table.add now flow) state.lastId) := by
  subst leaving consulted
  simp only [outbound, IndexedTable.lookupOutbound_eq, IndexedTable.add_eq]
  rfl

/-- A reply arrives through the flow that is found. -/
theorem inbound_eq (state : EchoState) (now : Nat) (remote external : Endpoint) :
    let selected := fun flow : Flow => flow.remote == remote && flow.external == external
    state.inbound now remote external =
      ((state.table.lookup now selected).1, state.consulted now selected) :=
  rfl

/--
A request leaves through the flow that is found, or else through a new one.

A new flow takes an unused identifier, and without one there is no flow.
-/
theorem outbound_cases (state : EchoState) (externalAddress : Address .v4) (now : Nat)
    (internal remote : Endpoint) :
    let selected := fun flow : Flow => flow.remote == remote && flow.internal == internal
    let after := state.consulted now selected
    (∃ flow, (state.table.lookup now selected).1 = some flow ∧
      state.outbound externalAddress now internal remote = (some flow, after)) ∨
    (state.table.lookup now selected).1 = none ∧ ∃ lastId,
      (state.outbound externalAddress now internal remote = (none, { after with lastId }) ∨
      ∃ id, (∀ flow ∈ after.table.flows, flow.external ≠ ⟨externalAddress, id⟩) ∧
        let flow := Flow.fresh internal ⟨externalAddress, id⟩ remote false now
        state.outbound externalAddress now internal remote = (some flow,
          ofTable { after.table with flows := after.table.flows ++ [flow] } lastId)) := by
  intro selected after
  have result := state.outbound_eq externalAddress now internal remote
    (show _ = selected from rfl) (show _ = after from rfl)
  -- A flow that is found is used again. Otherwise the counter moves on, with or without an identifier.
  cases found : (state.table.lookup now selected).1 with
  | some flow => exact Or.inl ⟨flow, rfl, by rw [result, found]⟩
  | none =>
    refine Or.inr ⟨rfl, (freeId after.indexed externalAddress 65535 after.lastId).2, ?_⟩
    have allocated : after.allocateId externalAddress =
        ((freeId after.indexed externalAddress 65535 after.lastId).1,
          { after with lastId := (freeId after.indexed externalAddress 65535 after.lastId).2 }) := rfl
    cases free : (freeId after.indexed externalAddress 65535 after.lastId).1 with
    | none =>
      rw [free] at allocated
      exact Or.inl (by rw [result, found, allocated])
    | some id =>
      rw [free] at allocated
      refine Or.inr ⟨id, freeId_unused free, ?_⟩
      -- The look-up has just seen to the sweep, so none is due when the flow is added.
      have swept : after.table.sweepIfDue now = after.table := by
        simp only [after, consulted_table]
        exact if_neg (state.table.lookup_aged now selected).swept
      simp only [result, found, allocated]
      show (_, ofTable (after.table.add now _) _) = _
      simp only [FlowTable.add, swept]

/-- What one operation makes of the state. -/
inductive Change (externalAddress : Address .v4) (now : Nat) (state : EchoState) :
    EchoState → Prop
  | same : Change externalAddress now state state
  | outbound (internal remote : Endpoint) :
      Change externalAddress now state (state.outbound externalAddress now internal remote).2
  | inbound (remote external : Endpoint) :
      Change externalAddress now state (state.inbound now remote external).2

/-- Every flow has an identifier of its own on the external address. -/
structure Guarded (externalAddress : Address .v4) (state : EchoState) : Prop where
  placed : ∀ flow ∈ state.table.flows, flow.external.address = externalAddress
  apart : state.table.flows.Pairwise fun left right => left.external ≠ right.external

namespace Guarded

variable {externalAddress : Address .v4} {now : Nat} {state : EchoState}
  (guarded : state.Guarded externalAddress)
include guarded

/-- Flows with identifiers of their own are distinct. -/
theorem distinct : state.table.Distinct := by
  -- Different identifiers tell flows apart whatever their remote hosts are.
  refine List.Pairwise.imp ?_ guarded.apart
  intro left right different _
  exact different

/-- A look-up keeps identifiers apart. -/
theorem consulted (selected : Flow → Bool) :
    (state.consulted now selected).Guarded externalAddress := by
  have aged := state.table.lookup_aged now selected
  -- Flows only go or are refreshed, and neither is about their identifiers.
  constructor
  · intro flow tracked
    rw [consulted_table] at tracked
    obtain ⟨old, before, same⟩ := aged.tracked_before tracked
    exact (congrArg (·.external.address) same).symm.trans (guarded.placed old before)
  · rw [consulted_table]
    exact aged.pairwise (fun left right => left.external ≠ right.external) guarded.apart

/-- Every operation keeps identifiers apart. -/
theorem change {after : EchoState} (change : Change externalAddress now state after) :
    after.Guarded externalAddress := by
  -- The guard is about the flows at the external address, of which only a request opens one.
  cases change with
  | same => exact guarded
  | inbound remote external => exact guarded.consulted _
  | outbound internal remote =>
    rcases state.outbound_cases externalAddress now internal remote with
      ⟨flow, -, result⟩ | ⟨-, lastId, result | ⟨id, unused, result⟩⟩
    · rw [result]
      exact guarded.consulted _
    · rw [result]
      exact ⟨(guarded.consulted _).placed, (guarded.consulted _).apart⟩
    · rw [result]
      constructor
      · intro flow tracked
        rw [ofTable_table] at tracked
        rcases List.mem_append.mp tracked with before | new
        · exact (guarded.consulted _).placed flow before
        · rw [List.mem_singleton.mp new]
          rfl
      · -- The new identifier was chosen among the unused ones.
        rw [ofTable_table]
        refine List.pairwise_append.mpr ⟨(guarded.consulted _).apart, by simp, ?_⟩
        intro flow before new member
        rw [List.mem_singleton.mp member]
        exact unused flow before

end Guarded

/-- A look-up keeps the live flows. -/
theorem consulted_keeps (state : EchoState) (now : Nat) (selected : Flow → Bool) :
    state.table.Keeps (state.consulted now selected).table now := by
  have aged := state.table.lookup_aged now selected
  rw [consulted_table]
  exact ⟨aged.timeout, aged.live⟩

/-- Every operation keeps the live flows. -/
theorem Change.keeps {externalAddress : Address .v4} {now : Nat} {state after : EchoState}
    (change : Change externalAddress now state after) : state.table.Keeps after.table now := by
  -- Nothing but the look-up touches the flows that are there.
  cases change with
  | same => exact FlowTable.Keeps.refl ..
  | inbound remote external => exact state.consulted_keeps now _
  | outbound internal remote =>
    rcases state.outbound_cases externalAddress now internal remote with
      ⟨flow, -, result⟩ | ⟨-, lastId, result | ⟨id, -, result⟩⟩
    · rw [result]
      exact state.consulted_keeps now _
    · rw [result]
      exact state.consulted_keeps now _
    · rw [result, ofTable_table]
      exact (state.consulted_keeps now _).added _

end NetworkLayer.EchoState
