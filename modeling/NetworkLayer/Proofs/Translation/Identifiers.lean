import NetworkLayer.Proofs.Translation.Echo
import NetworkLayer.Proofs.Translation.Guard

/-!
The search for an unused echo identifier. Main statement: what is found is never zero and never in use, and a free
identifier is found unless it is the one where the search starts and the only one left.
-/

namespace NetworkLayer

/-- A look-up between sweeps takes the first selected flow out if that has expired. -/
theorem FlowTable.lookup_expired {table : FlowTable} {now : Nat} {selected : Flow → Bool}
    {front back : List Flow} {flow : Flow}
    (unswept : ¬ table.lastSweep + table.sweepInterval < now)
    (split : table.flows = front ++ flow :: back)
    (skipped : ∀ other ∈ front, selected other = false) (chosen : selected flow)
    (expired : flow.isLive table.timeout now = false) :
    table.lookup now selected =
      (none, { table with flows := front ++ back, released := table.released ++ [flow] }) := by
  have same : table.sweepIfDue now = table := if_neg unswept
  simp only [lookup, same, split, find?_append back skipped chosen,
    eraseP_append back skipped chosen, expired, Bool.false_eq_true, if_false]

namespace EchoState

/-- Whether a tracked flow has an identifier. -/
def Uses (state : EchoState) (id : UInt16) : Prop :=
  ∃ flow ∈ state.table.flows, flow.external.port = id

/-- The identifier handed out last is the only one that is free. -/
structure Overlooks (state : EchoState) : Prop where
  nonzero : state.lastId ≠ 0
  free : ¬ state.Uses state.lastId
  taken : ∀ id, id ≠ 0 → id ≠ state.lastId → state.Uses id

/-- Identifiers that are handed out are not zero and not in use, and there is one whenever one is free. -/
structure Allocates (state : EchoState) (externalAddress : Address .v4) : Prop where
  unused : ∀ id, (state.allocateId externalAddress).1 = some id → id ≠ 0 ∧ ¬ state.Uses id
  none_iff : (state.allocateId externalAddress).1 = none ↔ ∀ id, id ≠ 0 → state.Uses id

section Search

variable {table : IndexedTable} {externalAddress : Address .v4}

/-- An identifier that is found is not zero. -/
theorem freeId_ne_zero {steps : Nat} {last id : UInt16}
    (found : (freeId table externalAddress steps last).1 = some id) : id ≠ 0 := by
  -- The induction is on the steps of the search, which passes over zero.
  induction steps generalizing last with
  | zero => simp [freeId] at found
  | succ steps ih =>
    simp only [freeId] at found
    split at found
    · rename_i accepted
      cases found
      simpa using (Bool.and_eq_true_iff.mp accepted).1
    · exact ih found

/-- The search is in vain if and only if every identifier that it comes upon is zero or in use. -/
theorem freeId_eq_none_iff (table : IndexedTable) (externalAddress : Address .v4) (steps : Nat)
    (last : UInt16) :
    (freeId table externalAddress steps last).1 = none ↔
      ∀ step < steps, last + UInt16.ofNat (step + 1) = 0 ∨
        table.usesExternal ⟨externalAddress, last + UInt16.ofNat (step + 1)⟩ = true := by
  induction steps generalizing last with
  | zero => simp [freeId]
  | succ steps ih =>
    -- The first step decides, or the search goes on from the next identifier.
    have shifted (step : Nat) :
        last + UInt16.ofNat (step + 1 + 1) = last + 1 + UInt16.ofNat (step + 1) := by
      rw [UInt16.ofNat_add (step + 1) 1, UInt16.add_assoc, UInt16.add_comm (UInt16.ofNat _)]
      rfl
    simp only [Nat.forall_lt_succ_left, shifted, freeId]
    split
    · rename_i accepted
      simp only [Bool.and_eq_true, decide_eq_true_eq, Bool.not_eq_true'] at accepted
      simp [accepted.1, accepted.2]
    · rename_i rejected
      rw [ih]
      have passed : last + 1 = 0 ∨ table.usesExternal ⟨externalAddress, last + 1⟩ = true := by
        simpa [Classical.or_iff_not_imp_left] using rejected
      exact (and_iff_right passed).symm

/-- The next identifier is found at once if it is free. -/
theorem freeId_next {last : UInt16} (nonzero : last + 1 ≠ 0)
    (free : table.usesExternal ⟨externalAddress, last + 1⟩ = false) (steps : Nat) :
    freeId table externalAddress (steps + 1) last = (some (last + 1), last + 1) := by
  rw [freeId]
  exact if_pos (by simp [nonzero, free])

/-- A whole turn comes upon every identifier but the one where it starts. -/
theorem turn_iff (last id : UInt16) :
    (∃ step < 65535, last + UInt16.ofNat (step + 1) = id) ↔ id ≠ last := by
  -- Fewer than 65536 steps do not come back to the start.
  constructor
  · rintro ⟨step, within, rfl⟩ same
    have none : UInt16.ofNat (step + 1) = 0 := by simpa using same
    have counted := congrArg UInt16.toNat none
    rw [UInt16.toNat_ofNat_of_lt' (show step + 1 < 65536 by omega)] at counted
    simp at counted
  · -- Any other identifier is as many steps away as their difference says.
    intro different
    have apart : id - last ≠ 0 := fun same => different <| by
      rw [← UInt16.sub_add_cancel id last, same, UInt16.zero_add]
    have positive : (id - last).toNat ≠ 0 := fun zero => apart (UInt16.toNat_inj.mp zero)
    have bound := (id - last).toNat_lt
    refine ⟨(id - last).toNat - 1, by omega, ?_⟩
    rw [Nat.sub_add_cancel (Nat.one_le_iff_ne_zero.mpr positive), UInt16.ofNat_toNat,
      UInt16.add_comm, UInt16.sub_add_cancel]

end Search

section Allocation

variable {state : EchoState} {externalAddress : Address .v4}

/-- On the external address the identifiers in use are those of the tracked flows. -/
theorem usesExternal_iff (guarded : state.Guarded externalAddress) (id : UInt16) :
    state.indexed.usesExternal ⟨externalAddress, id⟩ = true ↔ state.Uses id := by
  -- Every tracked flow is on the external address, so its socket and its identifier say the same.
  rw [IndexedTable.usesExternal_eq]
  simp only [FlowTable.usesExternal, List.any_eq_true, beq_iff_eq]
  refine exists_congr fun flow => and_congr_right fun tracked => ?_
  constructor
  · intro same
    rw [same]
  · rintro rfl
    rw [← guarded.placed flow tracked]

/-- No identifier is found if and only if all are in use but the one where the search starts. -/
theorem allocateId_eq_none_iff (guarded : state.Guarded externalAddress) :
    (state.allocateId externalAddress).1 = none ↔
      ∀ id, id ≠ 0 → id ≠ state.lastId → state.Uses id := by
  -- The search tries the identifiers of one turn, which are all but the last.
  have searched := freeId_eq_none_iff state.indexed externalAddress 65535 state.lastId
  simp only [usesExternal_iff guarded] at searched
  refine searched.trans ⟨fun passed id nonzero other => ?_, fun used step within => ?_⟩
  · obtain ⟨step, within, rfl⟩ := (turn_iff state.lastId id).mpr other
    exact (passed step within).resolve_left nonzero
  · have other := (turn_iff state.lastId _).mp ⟨step, within, rfl⟩
    exact Classical.or_iff_not_imp_left.mpr fun nonzero => used _ nonzero other

/-- An identifier that is handed out is not zero and not in use. -/
theorem allocateId_unused (guarded : state.Guarded externalAddress) {id : UInt16}
    (found : (state.allocateId externalAddress).1 = some id) : id ≠ 0 ∧ ¬ state.Uses id := by
  have found : (freeId state.indexed externalAddress 65535 state.lastId).1 = some id := found
  refine ⟨freeId_ne_zero found, ?_⟩
  rintro ⟨flow, tracked, rfl⟩
  refine freeId_unused found flow tracked ?_
  rw [← guarded.placed flow tracked]

/-- Free identifiers are found unless the only one that is left is overlooked. -/
theorem allocates_iff (guarded : state.Guarded externalAddress) :
    state.Allocates externalAddress ↔ ¬ state.Overlooks := by
  have missed := allocateId_eq_none_iff guarded
  constructor
  · intro allocates overlooks
    exact overlooks.free (allocates.none_iff.mp (missed.mpr overlooks.taken) _ overlooks.nonzero)
  · intro found
    refine ⟨fun id => allocateId_unused guarded, ?_⟩
    rw [missed]
    refine ⟨fun used id nonzero => ?_, fun used id nonzero _ => used id nonzero⟩
    by_cases last : id = state.lastId
    · -- Were the last one free, it would be overlooked.
      subst last
      exact Classical.byContradiction fun free => found ⟨nonzero, free, used⟩
    · exact used id nonzero last

end Allocation

/-- A request for which there is no flow gets the next identifier if that is free. -/
theorem outbound_next {state : EchoState} {externalAddress : Address .v4} {now : Nat}
    {internal remote : Endpoint} (settled : state.table.released = [])
    (unswept : ¬ state.table.lastSweep + state.table.sweepInterval < now)
    (unselected : ∀ flow ∈ state.table.flows,
      (flow.remote == remote && flow.internal == internal) = false)
    (nonzero : state.lastId + 1 ≠ 0)
    (free : state.indexed.usesExternal ⟨externalAddress, state.lastId + 1⟩ = false) :
    (state.outbound externalAddress now internal remote).2 =
      ofTable { state.table with flows := state.table.flows ++
        [.fresh internal ⟨externalAddress, state.lastId + 1⟩ remote false now] }
        (state.lastId + 1) := by
  have same : state.table.sweepIfDue now = state.table := if_neg unswept
  have nothing : state.table.flows.find?
      (fun flow => flow.remote == remote && flow.internal == internal) = none :=
    List.find?_eq_none.mpr fun flow tracked => by simp [unselected flow tracked]
  have looked : state.table.lookup now
      (fun flow => flow.remote == remote && flow.internal == internal) = (none, state.table) := by
    simp only [FlowTable.lookup, same, nothing]
  -- The look-up leaves everything as it is, so the search starts from the same state.
  have consulted : state.consulted now
      (fun flow => flow.remote == remote && flow.internal == internal) = state := by
    rw [EchoState.consulted, looked]
    simp only
    rw [← settled]
    exact congrArg (EchoState.mk · state.lastId) (IndexedTable.ofTable_toTable state.indexed)
  -- The first of the 65535 tries is the last one.
  have allocated : state.allocateId externalAddress =
      (some (state.lastId + 1), { state with lastId := state.lastId + 1 }) := by
    rw [allocateId, freeId_next nonzero free 65534]
  rw [state.outbound_eq externalAddress now internal remote rfl consulted, looked]
  simp only [allocated]
  show ofTable (state.table.add now _) _ = _
  rw [FlowTable.add, same]

section Filled

variable (timeout sweepInterval now : Nat) (order : ReleaseOrder) (externalAddress host server : Address .v4)

/-- The flow that the echo request with the next identifier opens. -/
def numbered (index : Nat) : Flow :=
  .fresh ⟨host, UInt16.ofNat (index + 1)⟩ ⟨externalAddress, UInt16.ofNat (index + 1)⟩ ⟨server, 0⟩
    false now

/-- The flows of so many echo requests, with the identifiers from 1 on. -/
def filledTable (count : Nat) : FlowTable :=
  { FlowTable.empty timeout sweepInterval now order with
    flows := (List.range count).map (numbered now externalAddress host server) }

/-- The state after so many echo requests of one host to one server. -/
def filled (count : Nat) : EchoState :=
  ofTable (filledTable timeout sweepInterval now order externalAddress host server count)
    (UInt16.ofNat count)

variable {count : Nat}

/-- Identifiers that do not wrap around tell their flows apart. -/
theorem numbered_id {index other : Nat} (small : index < 65535) (alsoSmall : other < 65535) :
    UInt16.ofNat (index + 1) = UInt16.ofNat (other + 1) ↔ index = other := by
  rw [← UInt16.toNat_inj, UInt16.toNat_ofNat_of_lt' (show index + 1 < 65536 by omega),
    UInt16.toNat_ofNat_of_lt' (show other + 1 < 65536 by omega)]
  omega

/-- The identifiers in use are those from 1 to the number of requests. -/
theorem filled_uses_iff (small : count < 65536) (id : UInt16) :
    (filled timeout sweepInterval now order externalAddress host server count).Uses id ↔
      id ≠ 0 ∧ id.toNat ≤ count := by
  -- Each flow uses its number plus one, which does not wrap.
  simp only [Uses, filled, ofTable_table, filledTable, List.mem_map, List.mem_range]
  constructor
  · rintro ⟨_, ⟨index, within, rfl⟩, rfl⟩
    have value : (UInt16.ofNat (index + 1)).toNat = index + 1 :=
      UInt16.toNat_ofNat_of_lt' (show index + 1 < 65536 by omega)
    refine ⟨fun zero => ?_, ?_⟩
    · have counted := congrArg UInt16.toNat zero
      simp only [numbered, Flow.fresh, value] at counted
      simp at counted
    · simp only [numbered, Flow.fresh, value]
      omega
  · rintro ⟨nonzero, within⟩
    have positive : id.toNat ≠ 0 := fun zero => nonzero (UInt16.toNat_inj.mp zero)
    refine ⟨_, ⟨id.toNat - 1, by omega, rfl⟩, ?_⟩
    simp only [numbered, Flow.fresh]
    rw [Nat.sub_add_cancel (Nat.one_le_iff_ne_zero.mpr positive), UInt16.ofNat_toNat]

/-- A request with the next identifier opens the next flow, which gets that identifier outside, too. -/
theorem filled_outbound (small : count < 65535) :
    ((filled timeout sweepInterval now order externalAddress host server count).outbound externalAddress
        now ⟨host, UInt16.ofNat (count + 1)⟩ ⟨server, 0⟩).2 =
      filled timeout sweepInterval now order externalAddress host server (count + 1) := by
  generalize state : filled timeout sweepInterval now order externalAddress host server count = before
  have table : before.table =
      filledTable timeout sweepInterval now order externalAddress host server count := by
    rw [← state, filled, ofTable_table]
  have last : before.lastId = UInt16.ofNat count := by rw [← state, filled, ofTable]
  have unswept : ¬ before.table.lastSweep + before.table.sweepInterval < now := by
    rw [table]
    exact Nat.not_lt.mpr (Nat.le_add_right ..)
  have next : before.lastId + 1 = UInt16.ofNat (count + 1) := by
    rw [last, UInt16.ofNat_add]
    rfl
  -- No earlier request had this identifier, neither inside nor outside.
  have fresh : ∀ flow ∈ before.table.flows,
      flow.internal.port ≠ UInt16.ofNat (count + 1) ∧
        flow.external.port ≠ UInt16.ofNat (count + 1) := by
    intro flow tracked
    rw [table] at tracked
    obtain ⟨index, within, rfl⟩ := List.mem_map.mp tracked
    have within := List.mem_range.mp within
    have other : UInt16.ofNat (index + 1) ≠ UInt16.ofNat (count + 1) := fun same =>
      absurd ((numbered_id (by omega) small).mp same) (by omega)
    exact ⟨other, other⟩
  have nonzero : before.lastId + 1 ≠ 0 := by
    intro zero
    have counted := congrArg UInt16.toNat (next.symm.trans zero)
    rw [UInt16.toNat_ofNat_of_lt' (show count + 1 < 65536 by omega)] at counted
    simp at counted
  have unselected : ∀ flow ∈ before.table.flows, (flow.remote == (⟨server, 0⟩ : Endpoint) &&
      flow.internal == (⟨host, UInt16.ofNat (count + 1)⟩ : Endpoint)) = false := by
    intro flow tracked
    have other : flow.internal ≠ ⟨host, UInt16.ofNat (count + 1)⟩ := fun same =>
      (fresh flow tracked).1 (congrArg Endpoint.port same)
    rw [beq_eq_false_iff_ne.mpr other, Bool.and_false]
  have free : before.indexed.usesExternal ⟨externalAddress, before.lastId + 1⟩ = false := by
    rw [IndexedTable.usesExternal_eq, next]
    refine List.any_eq_false.mpr fun flow tracked same => ?_
    exact (fresh flow tracked).2 (congrArg Endpoint.port (eq_of_beq same))
  -- So no flow is found, and the next identifier is free and taken.
  rw [outbound_next (by rw [table]; rfl) unswept unselected nonzero free, next, table, filled]
  congr 1
  simp only [filledTable, List.range_succ, List.map_append]
  rfl

/-- An answer to the last request that comes too late takes the flow of that request out. -/
theorem filled_inbound (small : count < 65535) {later : Nat} (expired : now + timeout ≤ later)
    (unswept : later ≤ now + sweepInterval) :
    ((filled timeout sweepInterval now order externalAddress host server (count + 1)).inbound later
        ⟨server, 0⟩ ⟨externalAddress, UInt16.ofNat (count + 1)⟩).2 =
      ofTable (filledTable timeout sweepInterval now order externalAddress host server count)
        (UInt16.ofNat (count + 1)) := by
  -- The flow of the last request stands at the end of the table.
  have split : (filledTable timeout sweepInterval now order externalAddress host server
      (count + 1)).flows = (List.range count).map (numbered now externalAddress host server) ++
        numbered now externalAddress host server count :: [] := by
    simp only [filledTable, List.range_succ, List.map_append]
    rfl
  -- The answer goes to the last flow and to none before it.
  have skipped : ∀ flow ∈ (List.range count).map (numbered now externalAddress host server),
      (flow.remote == (⟨server, 0⟩ : Endpoint) &&
        flow.external == (⟨externalAddress, UInt16.ofNat (count + 1)⟩ : Endpoint)) = false := by
    intro flow tracked
    obtain ⟨index, within, rfl⟩ := List.mem_map.mp tracked
    have within := List.mem_range.mp within
    have other : (numbered now externalAddress host server index).external ≠
        ⟨externalAddress, UInt16.ofNat (count + 1)⟩ := fun same =>
      absurd ((numbered_id (by omega) small).mp (congrArg Endpoint.port same)) (by omega)
    rw [beq_eq_false_iff_ne.mpr other, Bool.and_false]
  have chosen : ((numbered now externalAddress host server count).remote ==
      (⟨server, 0⟩ : Endpoint) && (numbered now externalAddress host server count).external ==
        (⟨externalAddress, UInt16.ofNat (count + 1)⟩ : Endpoint)) = true := by
    simp only [numbered, Flow.fresh, beq_self_eq_true, Bool.and_self]
  -- That flow has expired, so the look-up takes it out and finds nothing.
  have looked := FlowTable.lookup_expired (Nat.not_lt.mpr unswept) split skipped chosen
    (decide_eq_false (Nat.not_lt.mpr expired))
  rw [inbound_eq, consulted, filled, ofTable_table, looked, List.append_nil]
  rfl

end Filled

end EchoState

namespace Translator

open EchoState (filled filledTable)

variable {inside outside : Side} {config : TranslatorConfig} {start : Nat} {translator : Translator}

/-- In every run the tracked flows of echo messages have identifiers of their own on the external address. -/
theorem Session.run_echo_guarded (created : create inside outside config start = .ok translator)
    (operations : List Operation) :
    let session := Session.run ⟨start, translator⟩ operations
    session.translator.icmp.Guarded session.translator.externalAddress := by
  refine Session.run_induction (fun _ => True)
    (fun current => current.translator.icmp.Guarded current.translator.externalAddress) ?_ ?_
    (fun operation _ => operation.mapsOnly_any) ?_
  · intro now before after change guarded
    rw [change.externalAddress]
    exact guarded.change change.icmp
  · intro now next translator _ guarded
    exact guarded
  · -- Mappings make no difference to echo messages, so none need be allowed.
    have guarded : translator.Guarded fun _ => False :=
      create_guarded created fun _ impossible => impossible.elim
    exact guarded.icmp

/-- So many echo requests of one host to one server, with the identifiers from 1 on. -/
def requests (host server : Address .v4) (count : Nat) : List Operation :=
  (List.range count).map fun index =>
    .outbound (.echo .echoRequest host server (UInt16.ofNat (index + 1)))

/-- Each request of a new translator gets its own identifier outside, too. -/
theorem Session.run_requests (created : create inside outside config start = .ok translator)
    (host server : Address .v4) {count : Nat} (small : count ≤ 65535) :
    Session.run ⟨start, translator⟩ (requests host server count) = ⟨start, { translator with
      icmp := filled config.entryTimeout config.sweepInterval start (config.releases.order .icmp)
        translator.externalAddress host server count }⟩ := by
  -- The induction is on the number of requests, each of which opens the next flow.
  induction count with
  | zero =>
    obtain ⟨-, icmp, -⟩ := create_eq_ok created
    have same : filled config.entryTimeout config.sweepInterval start (config.releases.order .icmp)
        translator.externalAddress host server 0 = translator.icmp := icmp.symm
    rw [same]
    rfl
  | succ count ih =>
    have last : requests host server (count + 1) = requests host server count ++
        [.outbound (.echo .echoRequest host server (UInt16.ofNat (count + 1)))] := by
      simp only [requests, List.range_succ, List.map_append]
      rfl
    -- The earlier requests have left the table as if it had been filled by hand.
    rw [last, Session.run_append, ih (by omega)]
    refine (Session.step_echo _ host server _).trans ?_
    rw [EchoState.filled_outbound _ _ _ _ _ _ _ (by omega)]

/-- All identifiers are requested, and the last flow is given up when its answer comes too late. -/
def exhausting (externalAddress host server : Address .v4) (timeout : Nat) : List Operation :=
  requests host server 65535 ++
    [.advance timeout, .inbound (.echo .echoReply server externalAddress 65535)]

/-- After that the translator overlooks the only identifier that is free, if no sweep has come in between. -/
theorem exhausting_overlooks (created : create inside outside config start = .ok translator)
    (slow : config.entryTimeout ≤ config.sweepInterval) (host server : Address .v4) :
    let session := Session.run ⟨start, translator⟩
      (exhausting translator.externalAddress host server config.entryTimeout)
    session.translator.icmp.Overlooks ∧ session.translator.icmp.lastId = 65535 := by
  intro session
  -- After the requests the answer to the last one comes too late.
  have icmp : session.translator.icmp = .ofTable
      (filledTable config.entryTimeout config.sweepInterval start (config.releases.order .icmp)
        translator.externalAddress host server 65534) 65535 := by
    have requested := Session.run_requests created host server (Nat.le_refl 65535)
    have run : session = ((Session.run ⟨start, translator⟩ (requests host server 65535)).step
        (.advance config.entryTimeout)).step
          (.inbound (.echo .echoReply server translator.externalAddress 65535)) :=
      Session.run_append ..
    rw [run, requested, Session.step_arriving_echo]
    have last : 65534 < 65535 := by decide
    exact EchoState.filled_inbound _ _ _ _ _ _ _ last (Nat.le_refl _)
      (Nat.add_le_add_left slow start)
  have uses (id : UInt16) : session.translator.icmp.Uses id ↔ id ≠ 0 ∧ id.toNat ≤ 65534 := by
    rw [icmp]
    have same := EchoState.filled_uses_iff config.entryTimeout config.sweepInterval start
      (config.releases.order .icmp) translator.externalAddress host server (show 65534 < 65536 by decide) id
    -- The counter does not tell which identifiers are in use.
    simpa only [EchoState.Uses, filled, EchoState.ofTable_table] using same
  have last : session.translator.icmp.lastId = 65535 := by
    rw [icmp]
    rfl
  -- The counter stands at the free identifier, and a turn from there comes upon all others.
  refine ⟨⟨?_, ?_, ?_⟩, last⟩
  · rw [last]
    decide
  · rw [last, uses]
    decide
  · intro id nonzero other
    rw [last] at other
    have small := id.toNat_lt
    have value : id.toNat ≠ 65535 := fun same => other (UInt16.toNat_inj.mp same)
    exact (uses id).mpr ⟨nonzero, by omega⟩

/--
After any run an echo identifier is found whenever one is free, unless it is the one handed out last and no other
one is free.

Whatever is found is neither zero nor in use.
-/
theorem run_allocates_iff (created : create inside outside config start = .ok translator)
    (operations : List Operation) :
    let session := Session.run ⟨start, translator⟩ operations
    session.translator.icmp.Allocates session.translator.externalAddress ↔
      ¬ session.translator.icmp.Overlooks :=
  EchoState.allocates_iff (Session.run_echo_guarded created operations)

/-- After the first requests of a host there are identifiers left, and they are found. -/
theorem run_allocates_after_requests :
    ∃ translator, create lan wan {} 0 = .ok translator ∧
      let session := Session.run ⟨0, translator⟩ (requests host.address server.address 2)
      session.translator.icmp.Allocates session.translator.externalAddress := by
  have created : create lan wan {} 0 = .ok _ := rfl
  refine ⟨_, created, ?_⟩
  refine (run_allocates_iff created (requests host.address server.address 2)).mpr fun overlooks => ?_
  -- The third identifier is not in use, and it is not the last one.
  have used := overlooks.taken 3 (by decide)
  rw [Session.run_requests created host.address server.address (by decide)] at used
  have small := (EchoState.filled_uses_iff _ _ _ _ _ _ _ (by decide) 3).mp (used (by decide))
  exact absurd small.2 (by decide)

/-- One host takes all identifiers and gives the last one up; the search for an identifier then misses it. -/
theorem free_identifier_overlooked :
    ∃ translator, create lan wan {} 0 = .ok translator ∧
      let session := Session.run ⟨0, translator⟩
        (exhausting translator.externalAddress host.address server.address 300000)
      ¬ session.translator.icmp.Uses 65535 ∧
        (session.translator.icmp.allocateId session.translator.externalAddress).1 = none := by
  obtain ⟨translator, created⟩ : ∃ translator, create lan wan {} 0 = .ok translator := ⟨_, rfl⟩
  refine ⟨translator, created, ?_⟩
  have timeout : ({} : TranslatorConfig).entryTimeout = 300000 := rfl
  have reached := exhausting_overlooks created (by decide) host.address server.address
  rw [timeout] at reached
  -- The identifier that is overlooked is free, and the search does not give it.
  obtain ⟨overlooks, last⟩ := reached
  have free := overlooks.free
  rw [last] at free
  have missed := EchoState.allocateId_eq_none_iff (Session.run_echo_guarded created
    (exhausting translator.externalAddress host.address server.address 300000))
  exact ⟨free, missed.mpr overlooks.taken⟩

end Translator

end NetworkLayer
