import NetworkLayer.Proofs.Translation.Datagram
import NetworkLayer.Proofs.Translation.LiveLookup

/-!
What a translation that fails leaves behind. Main statement: after any run, a refused packet changes nothing,
and one without a flow costs no live flow and no mapping and gives back only ports of flows that had expired.
-/

namespace NetworkLayer

namespace FlowTable

/-- A table in which nothing is new or was seen again, and every live flow stays as it is. -/
structure Spared (now : Nat) (before after : FlowTable) : Prop where
  timeout : after.timeout = before.timeout
  sweepInterval : after.sweepInterval = before.sweepInterval
  sublist : after.flows.Sublist before.flows
  alive : alive before.timeout now after.flows = alive before.timeout now before.flows

/-- A table that stays is spared. -/
theorem Spared.refl (now : Nat) (table : FlowTable) : Spared now table table :=
  ⟨rfl, rfl, .refl _, rfl⟩

/-- No look-up changes the interval between sweeps. -/
theorem lookup_sweepInterval (table : FlowTable) (now : Nat) (selected : Flow → Bool) :
    (table.lookup now selected).2.sweepInterval = table.sweepInterval := by
  -- The sweep in front leaves the interval, and so do the three outcomes of the look-up.
  have swept : (table.sweepIfDue now).sweepInterval = table.sweepInterval := by
    rcases sweepIfDue_cases table now with same | swept
    · rw [same]
    · rw [swept, sweep]
  rcases lookup_cases table now selected with
    ⟨-, gives⟩ | ⟨front, flow, back, -, -, -, ⟨-, gives⟩ | ⟨-, gives⟩⟩
  · rw [gives, swept]
  · rw [gives]
    exact swept
  · rw [gives]
    exact swept

/-- A look-up in vain spares the table, also when what it released is taken. -/
theorem spared_of_missed {table : FlowTable} {now : Nat} {selected : Flow → Bool}
    (missed : (table.lookup now selected).1 = none) :
    Spared now table { (table.lookup now selected).2 with released := [] } where
  timeout := (table.lookup_aged now selected).timeout
  sweepInterval := table.lookup_sweepInterval now selected
  sublist := sublist_of_missed missed
  alive := alive_of_missed missed

end FlowTable

namespace PortState

/--
A state of which a failure costs nothing that is still in use.

The pool may have got back ports of flows that had expired.
-/
structure Spared (now : Nat) (before after : PortState) : Prop where
  table : before.table.Spared now after.table
  statics : after.statics = before.statics
  pool : ∃ gone : List Flow,
    after.pool = { before.pool with
      free := before.pool.free ++ gone.map fun flow => flow.external.port } ∧
    ∀ flow ∈ gone, flow ∈ before.table.flows ∧ flow.lastSeen + before.table.timeout ≤ now

/-- A state that stays is spared. -/
theorem Spared.refl (now : Nat) (state : PortState) : Spared now state state :=
  ⟨.refl now state.table, rfl, [], by simp, by simp⟩

/-- Giving a port back puts it behind the free ones, or changes nothing. -/
theorem freed_pool (state : PortState) (socket : Endpoint) :
    (state.freed socket).pool = state.pool ∨
      (state.freed socket).pool =
        { state.pool with free := state.pool.free ++ [socket.port] } := by
  rw [freed]
  -- A port that is held, or beyond the range, or free already, stays where it is.
  split
  · exact Or.inl rfl
  · simp only [PortPool.release]
    split
    · exact Or.inr rfl
    · exact Or.inl rfl

/-- A state on the way to one that has got ports of released flows back, with the flows that are still to come. -/
structure Regains (before : PortState) (rest : List Flow) (after : PortState) : Prop where
  rest : ∀ flow ∈ rest, flow ∈ before.table.released
  pool : ∃ gone : List Flow, after.pool = { before.pool with
    free := before.pool.free ++ gone.map fun flow => flow.external.port } ∧
    ∀ flow ∈ gone, flow ∈ before.table.released

/-- The next released flow gives its port back, or the pool stays. -/
theorem Regains.freed {before after : PortState} {flow : Flow} {rest : List Flow}
    (regains : Regains before (flow :: rest) after) :
    Regains before rest (after.freed flow.external) := by
  obtain ⟨released, gone, pool, origin⟩ := regains
  -- The port joins the pool at the end, unless it is held, outside the range, or free already.
  refine ⟨fun other member => released other (List.mem_cons_of_mem _ member), ?_⟩
  rcases after.freed_pool flow.external with same | longer
  · exact ⟨gone, same.trans pool, origin⟩
  · refine ⟨gone ++ [flow], by simp [longer, pool], fun other member => ?_⟩
    rcases List.mem_append.mp member with before | last
    · exact origin other before
    · rw [List.mem_singleton.mp last]
      exact released flow (List.mem_cons_self ..)

/-- Reclaiming puts ports of released flows behind the free ones. -/
theorem reclaimed_regains (state : PortState) (reclaim : Bool) :
    Regains state [] (state.reclaimed reclaim) := by
  refine reclaimed_induction (Regains state) ?_ ⟨fun _ member => member, [], by simp, by simp⟩
  intro flow rest after regains
  split
  · exact regains.freed
  · exact ⟨fun other member => regains.rest other (List.mem_cons_of_mem _ member), regains.pool⟩

/-- A look-up in vain spares a state in which no flow waits to be taken. -/
theorem consulted_spared {state : PortState} (settled : state.table.released = [])
    (reclaim : Bool) {now : Nat} {selected : Flow → Bool}
    (missed : (state.table.lookup now selected).1 = none) :
    state.Spared now (state.consulted reclaim now selected) where
  table := by
    rw [consulted_table]
    exact FlowTable.spared_of_missed missed
  statics := consulted_statics ..
  pool := by
    obtain ⟨gone, pool, origin⟩ :=
      (reclaimed_regains { state with table := (state.table.lookup now selected).2 } reclaim).pool
    obtain ⟨moved, released, late⟩ := (state.table.lookup_moves now selected).late
    -- All that was released was released by this look-up.
    rw [settled, List.nil_append] at released
    exact ⟨gone, pool, fun flow member => late flow (released ▸ origin flow member)⟩

/-- If there is no flow out, a look-up in vain is all that was done: all ports are taken. -/
theorem outbound_of_missed {state : PortState} {reclaim : Bool} {externalAddress : Address .v4}
    {now : Nat} {internal remote : Endpoint}
    (missed : (state.outbound reclaim externalAddress now internal remote).1 = none) :
    (state.table.lookup now (leaving internal remote)).1 = none ∧
      (state.outbound reclaim externalAddress now internal remote).2 =
        state.consulted reclaim now (leaving internal remote) := by
  -- A flow that is found or opened is a way out, so all ports are taken.
  rcases state.outbound_cases reclaim externalAddress now internal remote with
    ⟨flow, -, result⟩ | ⟨nothing, ⟨-, result⟩ | ⟨port, rest, -, result⟩⟩
  · rw [result] at missed
    cases missed
  · rw [result]
    exact ⟨nothing, rfl⟩
  · rw [result] at missed
    cases missed

/-- If there is no flow in, a look-up in vain is all that was done: there is no mapping. -/
theorem inbound_of_missed {state : PortState} {reclaim : Bool} {now : Nat}
    {remote external : Endpoint} (missed : (state.inbound reclaim now remote external).1 = none) :
    (state.table.lookup now (arriving remote external)).1 = none ∧
      (state.inbound reclaim now remote external).2 =
        state.consulted reclaim now (arriving remote external) := by
  -- A flow that is found or opened is a way in, so there is no mapping.
  rcases state.inbound_cases reclaim now remote external with
    ⟨flow, -, result⟩ | ⟨nothing, ⟨-, result⟩ | ⟨internal, -, result⟩⟩
  · rw [result] at missed
    cases missed
  · rw [result]
    exact ⟨nothing, rfl⟩
  · rw [result] at missed
    cases missed

/-- A state with ports is spared if there is no flow out of it. -/
theorem outbound_spared {state : PortState} (settled : state.table.released = []) {reclaim : Bool}
    {externalAddress : Address .v4} {now : Nat} {internal remote : Endpoint}
    (missed : (state.outbound reclaim externalAddress now internal remote).1 = none) :
    state.Spared now (state.outbound reclaim externalAddress now internal remote).2 := by
  obtain ⟨nothing, result⟩ := outbound_of_missed missed
  rw [result]
  exact consulted_spared settled reclaim nothing

/-- A state with ports is spared if there is no flow into it. -/
theorem inbound_spared {state : PortState} (settled : state.table.released = []) {reclaim : Bool}
    {now : Nat} {remote external : Endpoint}
    (missed : (state.inbound reclaim now remote external).1 = none) :
    state.Spared now (state.inbound reclaim now remote external).2 := by
  obtain ⟨nothing, result⟩ := inbound_of_missed missed
  rw [result]
  exact consulted_spared settled reclaim nothing

/-- No operation leaves a flow that waits to be taken. -/
theorem Change.settled {allowed : Endpoint → Prop} {reclaim : Bool} {externalAddress : Address .v4}
    {now : Nat} {state after : PortState}
    (change : Change allowed reclaim externalAddress now state after)
    (settled : state.table.released = []) : after.table.released = [] := by
  -- A look-up ends with taking what it has released, and what comes after it releases nothing.
  have looked (selected : Flow → Bool) :
      (state.consulted reclaim now selected).table.released = [] := by rw [consulted_table]
  cases change with
  | same => exact settled
  | mapped external internal => exact settled
  | unmapped external => rwa [unmapped_table]
  | outbound internal remote =>
    rcases state.outbound_cases reclaim externalAddress now internal remote with
      ⟨flow, -, result⟩ | ⟨-, ⟨-, result⟩ | ⟨port, rest, -, result⟩⟩
    · rw [result]
      exact looked _
    · rw [result]
      exact looked _
    · rw [result]
      exact looked _
  | inbound remote external =>
    rcases state.inbound_cases reclaim now remote external with
      ⟨flow, -, result⟩ | ⟨-, ⟨-, result⟩ | ⟨internal, -, result⟩⟩
    · rw [result]
      exact looked _
    · rw [result]
      exact looked _
    · rw [result]
      exact looked _

end PortState

namespace EchoState

variable {state : EchoState} {now : Nat}

/-- The table of an echo state is spared if there is no flow out of it. -/
theorem outbound_spared {externalAddress : Address .v4} {internal remote : Endpoint}
    (missed : (state.outbound externalAddress now internal remote).1 = none) :
    state.table.Spared now (state.outbound externalAddress now internal remote).2.table := by
  rcases state.outbound_cases externalAddress now internal remote with
    ⟨flow, -, result⟩ | ⟨nothing, lastId, result | ⟨id, -, result⟩⟩
  · rw [result] at missed
    cases missed
  · -- The search for an identifier moves the counter only.
    rw [result]
    have looked := FlowTable.spared_of_missed nothing
    rwa [← consulted_table] at looked
  · rw [result] at missed
    cases missed

/-- The table of an echo state is spared if there is no flow into it. -/
theorem inbound_spared {remote external : Endpoint}
    (missed : (state.inbound now remote external).1 = none) :
    state.table.Spared now (state.inbound now remote external).2.table := by
  rw [inbound_eq] at missed ⊢
  rw [consulted_table]
  exact FlowTable.spared_of_missed missed

end EchoState

namespace Translator

/-- A translator of which a failure costs nothing that is still in use. -/
structure Spared (now : Nat) (before after : Translator) : Prop where
  ports : ∀ protocol, (before.ports protocol).Spared now (after.ports protocol)
  icmp : before.icmp.table.Spared now after.icmp.table
  /-- Nothing but the state of the protocols may differ. -/
  rest : { after with udp := before.udp, tcp := before.tcp, icmp := before.icmp } = before

/-- A failed translation does no harm: one that is refused changes nothing at all. -/
structure Harmless (now : Nat) (before : Translator) (result : Translation × Translator) :
    Prop where
  refused : result.1.IsRefusal → result.2 = before
  failed : result.1 = .noMapping ∨ result.1 = .portsExhausted → Spared now before result.2

section Spared

variable {translator : Translator} {now : Nat}

/-- A state of a protocol with ports that is spared spares the translator. -/
theorem spared_withPorts (protocol : PortProtocol) {state : PortState}
    (spared : (translator.ports protocol).Spared now state) :
    Spared now translator (translator.withPorts protocol state) where
  ports other := by
    -- The other protocols have the state they had.
    by_cases same : other = protocol
    · rw [same, withPorts_ports_self]
      exact spared
    · rw [withPorts_ports_of_ne _ _ _ same]
      exact .refl now _
  icmp := by
    rw [withPorts_icmp]
    exact .refl now _
  rest := by cases protocol <;> rfl

/-- An echo state with a table that is spared spares the translator. -/
theorem spared_withIcmp {state : EchoState}
    (spared : translator.icmp.table.Spared now state.table) :
    Spared now translator { translator with icmp := state } where
  ports protocol := by cases protocol <;> exact .refl now _
  icmp := spared
  rest := rfl

/-- A packet for which there is no way out costs nothing that is still in use. -/
theorem flowOut_spared (settled : ∀ protocol, (translator.ports protocol).table.released = [])
    {protocol : TrackedProtocol} {ends : Ends}
    (missed : (translator.flowOut now protocol ends).1 = none) :
    Spared now translator (translator.flowOut now protocol ends).2 := by
  cases protocol with
  | icmp => exact spared_withIcmp (EchoState.outbound_spared missed)
  | tcp => exact spared_withPorts .tcp (PortState.outbound_spared (settled .tcp) missed)
  | udp => exact spared_withPorts .udp (PortState.outbound_spared (settled .udp) missed)

/-- A packet for which there is no way in costs nothing that is still in use. -/
theorem flowIn_spared (settled : ∀ protocol, (translator.ports protocol).table.released = [])
    {protocol : TrackedProtocol} {ends : Ends}
    (missed : (translator.flowIn now protocol ends).1 = none) :
    Spared now translator (translator.flowIn now protocol ends).2 := by
  cases protocol with
  | icmp => exact spared_withIcmp (EchoState.inbound_spared missed)
  | tcp => exact spared_withPorts .tcp (PortState.inbound_spared (settled .tcp) missed)
  | udp => exact spared_withPorts .udp (PortState.inbound_spared (settled .udp) missed)

/-- A translation does no harm if it has not failed. -/
theorem harmless_of_translated (out : Ipv4Packet) (after : Translator) :
    Harmless now translator (.translated out, after) where
  refused := False.elim
  failed := by rintro (failed | failed) <;> cases failed

/-- A refusal that changes nothing does no harm. -/
theorem harmless_of_refused {refusal : Translation} (refused : refusal.IsRefusal) :
    Harmless now translator (refusal, translator) where
  refused _ := rfl
  failed := by rintro (rfl | rfl) <;> exact refused.elim

/-- A packet on its way out does no harm if it is not translated. -/
theorem outbound_harmless (settled : ∀ protocol, (translator.ports protocol).table.released = [])
    (packet : Ipv4Packet) : Harmless now translator (translator.outbound now packet) := by
  -- A refusal changes nothing, a missed flow spares, and a translated packet is no failure.
  rcases translator.outbound_carried_or_refused now packet with
    ⟨protocol, carried⟩ | ⟨refusal, refused, result⟩
  · rcases outbound_of_carries translator now carried with
      ⟨missed, result⟩ | ⟨flow, out, -, result, -⟩
    · rw [result]
      exact ⟨False.elim, fun _ => flowOut_spared settled missed⟩
    · rw [result]
      exact harmless_of_translated out _
  · rw [result]
    exact harmless_of_refused refused

/-- A packet on its way in does no harm if it is not translated. -/
theorem inbound_harmless (settled : ∀ protocol, (translator.ports protocol).table.released = [])
    (packet : Ipv4Packet) : Harmless now translator (translator.inbound now packet) := by
  -- As on the way out.
  rcases translator.inbound_carried_or_refused now packet with
    ⟨protocol, carried⟩ | ⟨refusal, refused, result⟩
  · rcases inbound_of_carries translator now carried with
      ⟨missed, result⟩ | ⟨flow, back, -, result, -⟩
    · rw [result]
      exact ⟨False.elim, fun _ => flowIn_spared settled missed⟩
    · rw [result]
      exact harmless_of_translated back _
  · rw [result]
    exact harmless_of_refused refused

end Spared

/-- After no run a flow waits to be taken from the table of a protocol with ports. -/
theorem Session.run_settled {inside outside : Side} {config : TranslatorConfig} {start : Nat}
    {translator : Translator} (created : create inside outside config start = .ok translator)
    (operations : List Operation) (protocol : PortProtocol) :
    ((Session.run ⟨start, translator⟩ operations).translator.ports protocol).table.released = [] := by
  obtain ⟨ports, -, -⟩ := create_eq_ok created
  -- By the induction over runs, with nothing asked of the mappings.
  refine Session.run_ports (fun _ => True) protocol (fun state => state.table.released = []) ?_
    (fun operation _ => operation.mapsOnly_any) ?_
  · intro now before after change settled
    exact change.settled settled
  · rw [ports]
    rfl

/--
After any run a translation that fails leaves the translator intact, both ways.

A packet that is refused changes nothing. One without a flow adds and refreshes none, costs no live flow and no
mapping, and gives back only ports of flows that had expired.
-/
theorem failures_harmless {inside outside : Side} {config : TranslatorConfig} {start : Nat}
    {translator : Translator} (created : create inside outside config start = .ok translator)
    (operations : List Operation) (packet : Ipv4Packet) :
    let session := Session.run ⟨start, translator⟩ operations
    Harmless session.now session.translator (session.translator.outbound session.now packet) ∧
      Harmless session.now session.translator (session.translator.inbound session.now packet) := by
  intro session
  have settled := Session.run_settled created operations
  exact ⟨outbound_harmless settled packet, inbound_harmless settled packet⟩

/-- An answer that comes too late finds no flow; its failure gives the port of the flow back, and no more. -/
theorem late_answer_harmless :
    ∃ translator, create lan wan onePort 0 = .ok translator ∧
      let session := Session.run ⟨0, translator⟩
        [.outbound (.datagram host server), .advance 300000]
      let result := session.translator.inbound session.now
        (.datagram server ⟨.ofNat 0x01020304, 6200⟩)
      result.1 = .noMapping ∧ Spared session.now session.translator result.2 ∧
        session.translator.udp.pool.free = [] ∧ result.2.udp.pool.free = [6200] := by
  have created : create lan wan onePort 0 = .ok _ := rfl
  refine ⟨_, created, ?_⟩
  intro session result
  -- Evaluation gives the failure, and the theorem says what it spares.
  have missed : result.1 = .noMapping := by decide +kernel
  have harmless := (failures_harmless created
    [.outbound (.datagram host server), .advance 300000]
    (.datagram server ⟨.ofNat 0x01020304, 6200⟩)).2
  exact ⟨missed, harmless.failed (Or.inl missed), by decide +kernel, by decide +kernel⟩

end Translator

end NetworkLayer
