import NetworkLayer.Proofs.Translation.Datagram

/-!
No external port is lost. A port of the range that is not free is held by a static mapping or by a
tracked flow, and whichever of them goes last gives the port back.
-/

namespace NetworkLayer

namespace PortState

/--
Every port from `first` to `last` is free, or something holds it.

The ports of the `expired` flows are still to be given back.
-/
structure Accounted (first last : UInt16) (expired : List Flow) (state : PortState) : Prop where
  sound : state.pool.Sound
  range : ∀ port, state.pool.inRange port ↔ first ≤ port ∧ port ≤ last
  holder : ∀ port, state.pool.inRange port → port ∉ state.pool.free →
    (∃ mapping ∈ state.statics.keys, mapping.port = port) ∨
      ∃ flow ∈ state.table.flows ++ expired, flow.external.port = port

namespace Accounted

variable {first last : UInt16} {expired : List Flow} {state : PortState}

/-- A port that is given back is free, unless something else holds it. -/
theorem freed_free {socket : Endpoint} (within : state.pool.inRange socket.port)
    (unheld : ¬ state.holds socket) : socket.port ∈ (state.freed socket).pool.free := by
  -- Nothing holds the port, so it is given back.
  rw [freed, if_neg unheld]
  exact PortPool.mem_release_iff.mpr (Or.inr ⟨rfl, within⟩)

/-- Ports that are free stay free when another one is given back. -/
theorem free_of_freed {socket : Endpoint} {port : UInt16}
    (taken : port ∉ (state.freed socket).pool.free) : port ∉ state.pool.free := by
  intro free
  apply taken
  -- Giving a port back takes none away.
  rw [freed]
  split
  · exact free
  · exact PortPool.mem_release_iff.mpr (Or.inl free)

/-- Giving a port back keeps the pool sound. -/
theorem freed_sound (sound : state.pool.Sound) (socket : Endpoint) :
    (state.freed socket).pool.Sound := by
  -- The pool is either left alone or given one port.
  rw [freed]
  split
  · exact sound
  · exact sound.release _

/--
The holder of a port may go, if the port is given back.

The ports of the others are accounted for by what is left of the state.
-/
theorem freed {socket : Endpoint} (sound : state.pool.Sound)
    (range : ∀ port, state.pool.inRange port ↔ first ≤ port ∧ port ≤ last)
    (others : ∀ port, port ≠ socket.port → state.pool.inRange port → port ∉ state.pool.free →
      (∃ mapping ∈ state.statics.keys, mapping.port = port) ∨
        ∃ flow ∈ state.table.flows ++ expired, flow.external.port = port) :
    (state.freed socket).Accounted first last expired where
  sound := freed_sound sound socket
  range port := by rw [freed_inRange, range]
  holder port within taken := by
    rw [freed_inRange] at within
    rw [freed_statics, freed_table]
    by_cases own : port = socket.port
    · subst own
      by_cases held : state.holds socket
      · -- Whoever holds the port accounts for it.
        rcases holds_iff.mp held with mapping | ⟨flow, tracked, rfl⟩
        · exact Or.inl mapping
        · exact Or.inr ⟨flow, List.mem_append_left _ tracked, rfl⟩
      · exact absurd (freed_free within held) taken
    · exact others port own within (free_of_freed taken)

/-- A look-up accounts for the ports of the flows that it releases. -/
theorem consulted (accounted : state.Accounted first last []) (now : Nat)
    (selected : Flow → Bool) : (state.consulted true now selected).Accounted first last [] := by
  have aged := state.table.lookup_aged now selected
  -- Induction on the flows that are released: each is checked and given back before the next.
  refine reclaimed_induction (fun expired state => state.Accounted first last expired) ?_ ?_
  · intro flow rest state accounted
    rw [if_pos rfl]
    -- The port of the flow itself is free now, so the other flows still hold what they held.
    refine freed accounted.sound accounted.range fun port other within taken => ?_
    rcases accounted.holder port within taken with mapping | ⟨holder, member, own⟩
    · exact Or.inl mapping
    refine Or.inr ⟨holder, ?_, own⟩
    rcases List.mem_append.mp member with tracked | behind
    · exact List.mem_append_left _ tracked
    rcases List.mem_cons.mp behind with rfl | later
    · exact absurd own.symm other
    · exact List.mem_append_right _ later
  · -- Right after the look-up every holder is tracked or among those that are released.
    refine ⟨accounted.sound, accounted.range, fun port within taken => ?_⟩
    rcases accounted.holder port within taken with mapping | ⟨holder, member, own⟩
    · exact Or.inl mapping
    rw [List.append_nil] at member
    -- The holder is still tracked, or it is among those whose ports are to be given back.
    rcases aged.accounted holder member with ⟨kept, still, same⟩ | released
    · have external := (Flow.sockets_of_unseen same).2.1
      exact Or.inr ⟨kept, List.mem_append_left _ still, by rw [external, own]⟩
    · exact Or.inr ⟨holder, List.mem_append_right _ released, own⟩

/-- A flow that comes in addition takes nothing away. -/
theorem opened (accounted : state.Accounted first last []) (flow : Flow) :
    (state.opened flow).Accounted first last [] where
  sound := accounted.sound
  range := accounted.range
  holder port within taken := by
    -- The holders that were there are all still there.
    refine (accounted.holder port within taken).imp_right ?_
    rintro ⟨holder, member, own⟩
    rw [List.append_nil] at member ⊢
    exact ⟨holder, List.mem_append_left _ member, own⟩

/-- A port that is handed out is accounted for by its flow. -/
theorem taken (accounted : state.Accounted first last []) {port : UInt16} {rest : List UInt16}
    (order : state.pool.free = port :: rest) {flow : Flow} (own : flow.external.port = port) :
    (PortState.opened { state with pool := { state.pool with free := rest } } flow).Accounted
      first last [] where
  sound := accounted.sound.tail order
  range := accounted.range
  holder other within away := by
    rw [List.append_nil]
    -- The new flow has the port that is gone, and the others are as they were.
    by_cases same : other = port
    · exact Or.inr ⟨flow, List.mem_append_right _ (List.mem_singleton.mpr rfl), own.trans same.symm⟩
    have before : other ∉ state.pool.free := by
      rw [order]
      exact List.not_mem_cons_of_ne_of_not_mem same away
    refine (accounted.holder other within before).imp_right ?_
    rintro ⟨holder, member, held⟩
    rw [List.append_nil] at member
    exact ⟨holder, List.mem_append_left _ member, held⟩

/-- A port that is withdrawn is accounted for by its mapping. -/
theorem mapped (accounted : state.Accounted first last []) (external internal : Endpoint) :
    (state.mapped external internal).Accounted first last [] where
  sound := accounted.sound.reserve _
  range := accounted.range
  holder port within away := by
    -- The new mapping has the port that is gone, and the others are as they were.
    by_cases own : port = external.port
    · exact Or.inl ⟨external, Dictionary.mem_keys_insert.mpr (Or.inl rfl), own.symm⟩
    have before : port ∉ state.pool.free := fun free =>
      away ((PortPool.mem_reserve_iff accounted.sound).mpr ⟨own, free⟩)
    refine (accounted.holder port within before).imp_left ?_
    rintro ⟨mapping, present, held⟩
    exact ⟨mapping, Dictionary.mem_keys_insert.mpr (Or.inr present), held⟩

/-- The port of a mapping that goes is given back or accounted for by someone else. -/
theorem unmapped (accounted : state.Accounted first last []) (external : Endpoint) :
    (state.unmapped external).Accounted first last [] := by
  rw [PortState.unmapped]
  split
  · refine freed accounted.sound accounted.range fun port other within away => ?_
    refine (accounted.holder port within away).imp_left ?_
    rintro ⟨mapping, present, own⟩
    -- A mapping of another port is not the one that goes.
    refine ⟨mapping, Dictionary.mem_keys_erase.mpr ⟨?_, present⟩, own⟩
    rintro rfl
    exact other own.symm
  · exact accounted

/-- Every operation accounts for all ports, if they are reclaimed. -/
theorem change {allowed : Endpoint → Prop} {externalAddress : Address .v4} {now : Nat}
    {after : PortState} (accounted : state.Accounted first last [])
    (change : Change allowed true externalAddress now state after) :
    after.Accounted first last [] := by
  -- A look-up is accounted for first, and then what is added to the state.
  cases change with
  | same => exact accounted
  | mapped external internal => exact accounted.mapped external internal
  | unmapped external => exact accounted.unmapped external
  | outbound internal remote =>
    have looked := accounted.consulted now (leaving internal remote)
    rcases state.outbound_cases true externalAddress now internal remote with
      ⟨flow, -, result⟩ | ⟨-, ⟨-, result⟩ | ⟨port, rest, order, result⟩⟩
    · rwa [result]
    · rwa [result]
    · rw [result]
      exact looked.taken order rfl
  | inbound remote external =>
    have looked := accounted.consulted now (arriving remote external)
    rcases state.inbound_cases true now remote external with
      ⟨flow, -, result⟩ | ⟨-, ⟨-, result⟩ | ⟨internal, -, result⟩⟩
    · rwa [result]
    · rwa [result]
    · rw [result]
      exact looked.opened _

/-- A pool of the whole range has nothing to account for. -/
theorem initial (first last : UInt16) (table : FlowTable) :
    Accounted first last [] ⟨table, .ofRange first last, .empty⟩ where
  sound := PortPool.ofRange_sound first last
  range _ := PortPool.inRange_iff
  holder port within away := by
    -- Every port of the range has its index in the pool, so none is away.
    obtain ⟨above, below⟩ := PortPool.inRange_iff.mp within
    exact absurd (List.mem_of_getElem? (PortPool.ofRange_port above below)) away

end Accounted

end PortState

namespace Translator

/--
With reclaiming, no run loses an external port.

The free ports are different ports of the range, and any other port of the range belongs to a
static mapping or to a tracked flow.
-/
theorem run_accounts_for_ports {inside outside : Side} {config : TranslatorConfig} {start : Nat}
    {translator : Translator} (created : create inside outside config start = .ok translator)
    (reclaims : config.reclaimPorts = true) (operations : List Operation)
    (protocol : PortProtocol) :
    let state := (Session.run ⟨start, translator⟩ operations).translator.ports protocol
    state.pool.free.Nodup ∧
    (∀ port ∈ state.pool.free, config.firstPort ≤ port ∧ port ≤ config.lastPort) ∧
    ∀ port, config.firstPort ≤ port → port ≤ config.lastPort → port ∉ state.pool.free →
      (∃ mapping ∈ state.statics.keys, mapping.port = port) ∨
        ∃ flow ∈ state.table.flows, flow.external.port = port := by
  intro state
  obtain ⟨ports, -, reclaim⟩ := create_eq_ok created
  -- The parts of the invariant are the three statements, with no port left to give back.
  have accounted : state.Accounted config.firstPort config.lastPort [] := by
    refine Session.run_ports (fun _ => True) protocol _ ?_
      (fun operation _ => operation.mapsOnly_any) ?_
    · intro now before after change accounted
      rw [reclaim, reclaims] at change
      exact PortState.Accounted.change accounted change
    · rw [ports]
      exact PortState.Accounted.initial ..
  refine ⟨accounted.sound.nodup, fun port free => ?_, fun port above below away => ?_⟩
  · exact (accounted.range port).mp (accounted.sound.inRange port free)
  · simpa using accounted.holder port ((accounted.range port).mpr ⟨above, below⟩) away

/-- The only port of a small range, once it is taken, belongs to the flow that took it. -/
theorem run_accounts_for_only_port :
    ∃ translator, create lan wan onePort 0 = .ok translator ∧ onePort.reclaimPorts = true ∧
      let state := (Session.run ⟨0, translator⟩
        [.outbound (.datagram host server)]).translator.ports .udp
      state.pool.free.Nodup ∧
      (∀ port ∈ state.pool.free, onePort.firstPort ≤ port ∧ port ≤ onePort.lastPort) ∧
      ∀ port, onePort.firstPort ≤ port → port ≤ onePort.lastPort → port ∉ state.pool.free →
        (∃ mapping ∈ state.statics.keys, mapping.port = port) ∨
          ∃ flow ∈ state.table.flows, flow.external.port = port := by
  have created : create lan wan onePort 0 = .ok _ := rfl
  exact ⟨_, created, rfl,
    run_accounts_for_ports created rfl [.outbound (.datagram host server)] .udp⟩

end Translator

end NetworkLayer
