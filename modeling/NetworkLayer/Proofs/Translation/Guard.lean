import NetworkLayer.Proofs.Translation.Session

/-!
Free ports are kept apart from flows and mappings. Every operation preserves this as long as no
socket of another address than the external one is mapped with a port of the range.
-/

namespace NetworkLayer.PortState

/-- No free port is in use at the external address, and no two flows took the same port. -/
structure Exclusive (externalAddress : Address .v4) (state : PortState) : Prop where
  untracked : ∀ port ∈ state.pool.free, ∀ flow ∈ state.table.flows,
    flow.external ≠ ⟨externalAddress, port⟩
  unmapped : ∀ port ∈ state.pool.free, ∀ mapping ∈ state.statics.keys, mapping.port ≠ port
  dynamic : state.table.flows.Pairwise fun left right =>
    left.dynamic → right.dynamic → left.external ≠ right.external

/--
What keeps a state exclusive from one operation to the next.

The ports of the `expired` flows are still to be given back.
-/
structure Guarded (allowed : Endpoint → Prop) (externalAddress : Address .v4)
    (expired : List Flow) (state : PortState) : Prop
    extends Exclusive externalAddress state where
  sound : state.pool.Sound
  distinct : state.table.Distinct
  settled : state.table.released = []
  placed : ∀ flow ∈ state.table.flows ++ expired,
    flow.external.address = externalAddress ∨ allowed flow.external
  permitted : ∀ mapping ∈ state.statics.keys, allowed mapping
  /-- A port of the range belongs to the external address alone. -/
  confined : ∀ socket, allowed socket → state.pool.inRange socket.port →
    socket.address = externalAddress

namespace Guarded

variable {allowed : Endpoint → Prop} {externalAddress : Address .v4} {expired : List Flow}
  {state : PortState}

/-- Whose port has been given back need not be placed any more. -/
theorem settle {flow : Flow} (guarded : state.Guarded allowed externalAddress (flow :: expired)) :
    state.Guarded allowed externalAddress expired :=
  { guarded with
    placed := fun other member => guarded.placed other (by
      rcases List.mem_append.mp member with tracked | behind
      · exact List.mem_append_left _ tracked
      · exact List.mem_append_right _ (List.mem_cons_of_mem _ behind)) }

/-- A port that nothing holds may be given back. -/
theorem freed (guarded : state.Guarded allowed externalAddress expired) {socket : Endpoint}
    (own : socket.address = externalAddress ∨ allowed socket) :
    (state.freed socket).Guarded allowed externalAddress expired := by
  rw [PortState.freed]
  split
  · exact guarded
  rename_i unheld
  -- The socket is neither mapped nor tracked, which is what the port is asked for.
  rw [holds_iff, not_or] at unheld
  obtain ⟨noMapping, noFlow⟩ := unheld
  refine ⟨⟨?_, ?_, guarded.dynamic⟩, guarded.sound.release _, guarded.distinct, guarded.settled,
    guarded.placed, guarded.permitted, ?_⟩
  · -- A free port was free before, or it is the one given back.
    intro port free flow tracked same
    rcases PortPool.mem_release_iff.mp free with before | ⟨rfl, within⟩
    · exact guarded.untracked port before flow tracked same
    · -- The socket has the external address, so the flow would hold it.
      have address : socket.address = externalAddress :=
        own.elim id fun permitted => guarded.confined socket permitted within
      exact noFlow ⟨flow, tracked, by rw [same, ← address]⟩
  · intro port free mapping present same
    rcases PortPool.mem_release_iff.mp free with before | ⟨rfl, -⟩
    · exact guarded.unmapped port before mapping present same
    · exact noMapping ⟨mapping, present, same⟩
  · intro other permitted within
    rw [PortPool.release_inRange] at within
    exact guarded.confined other permitted within

/-- A look-up keeps the guard, and every port that it gives back is in nobody's use. -/
theorem consulted (guarded : state.Guarded allowed externalAddress []) (reclaim : Bool) (now : Nat)
    (selected : Flow → Bool) :
    (state.consulted reclaim now selected).Guarded allowed externalAddress [] := by
  have aged := state.table.lookup_aged now selected
  have placed : ∀ flow ∈ state.table.flows,
      flow.external.address = externalAddress ∨ allowed flow.external :=
    fun flow tracked => guarded.placed flow (List.mem_append_left _ tracked)
  refine reclaimed_induction (fun expired state => state.Guarded allowed externalAddress expired)
    ?_ ?_
  · -- Each released flow settles first, and its port is given back if ports are reclaimed.
    intro flow rest state guarded
    have own := guarded.placed flow (List.mem_append_right _ (List.mem_cons_self ..))
    split
    · exact guarded.settle.freed own
    · exact guarded.settle
  · -- After the look-up the tracked flows are older ones, and the released ones were tracked.
    refine ⟨⟨?_, guarded.unmapped, ?_⟩, guarded.sound, aged.distinct guarded.distinct, rfl, ?_,
      guarded.permitted, guarded.confined⟩
    · intro port free flow tracked same
      obtain ⟨old, before, unchanged⟩ := aged.tracked_before tracked
      have external := (Flow.sockets_of_unseen unchanged).2.1
      exact guarded.untracked port free old before (external.trans same)
    · exact aged.pairwise (fun left right =>
        left.dynamic → right.dynamic → left.external ≠ right.external) guarded.dynamic
    · intro flow member
      rcases List.mem_append.mp member with tracked | released
      · obtain ⟨old, before, unchanged⟩ := aged.tracked_before tracked
        have external := (Flow.sockets_of_unseen unchanged).2.1
        rw [← external]
        exact placed old before
      · -- Nothing was released before this look-up.
        rcases aged.origin flow released with earlier | tracked
        · rw [guarded.settled] at earlier
          cases earlier
        · exact placed flow tracked

/-- A flow may be added whose external socket nobody else has towards its remote one. -/
theorem opened (guarded : state.Guarded allowed externalAddress []) {flow : Flow}
    (placed : flow.external.address = externalAddress ∨ allowed flow.external)
    (taken : ∀ port ∈ state.pool.free, flow.external ≠ ⟨externalAddress, port⟩)
    (apart : ∀ other ∈ state.table.flows, other.remote = flow.remote →
      other.external ≠ flow.external)
    (alone : flow.dynamic → ∀ other ∈ state.table.flows, other.external ≠ flow.external) :
    (state.opened flow).Guarded allowed externalAddress [] where
  -- Every field is about the flows that were there or about the one that is new.
  untracked port free other member := by
    rcases List.mem_append.mp member with tracked | new
    · exact guarded.untracked port free other tracked
    · rw [List.mem_singleton.mp new]
      exact taken port free
  unmapped := guarded.unmapped
  dynamic := by
    refine List.pairwise_append.mpr ⟨guarded.dynamic, by simp, ?_⟩
    intro other tracked new member _ dynamic
    rw [List.mem_singleton.mp member] at dynamic ⊢
    exact alone dynamic other tracked
  sound := guarded.sound
  distinct := by
    refine List.pairwise_append.mpr ⟨guarded.distinct, by simp, ?_⟩
    intro other tracked new member
    rw [List.mem_singleton.mp member]
    exact apart other tracked
  settled := guarded.settled
  placed other member := by
    rw [List.append_nil] at member
    rcases List.mem_append.mp member with tracked | new
    · exact guarded.placed other (List.mem_append_left _ tracked)
    · rw [List.mem_singleton.mp new]
      exact placed
  permitted := guarded.permitted
  confined := guarded.confined

/-- The guard outlasts a port that is taken from the pool. -/
theorem tail (guarded : state.Guarded allowed externalAddress expired) {port : UInt16}
    {rest : List UInt16} (order : state.pool.free = port :: rest) :
    Guarded allowed externalAddress expired
      { state with pool := { state.pool with free := rest } } :=
  -- With one port less in the pool each condition on free ports is weaker.
  have kept : ∀ other ∈ rest, other ∈ state.pool.free := fun other member => by
    rw [order]
    exact List.mem_cons_of_mem _ member
  { guarded with
    untracked := fun other member => guarded.untracked other (kept other member)
    unmapped := fun other member => guarded.unmapped other (kept other member)
    sound := guarded.sound.tail order }

/-- A new flow takes a free port, which no flow has at the external address. -/
theorem outbound (guarded : state.Guarded allowed externalAddress []) (reclaim : Bool) (now : Nat)
    (internal remote : Endpoint) :
    (state.outbound reclaim externalAddress now internal remote).2.Guarded allowed externalAddress
      [] := by
  have looked := guarded.consulted reclaim now (leaving internal remote)
  rcases state.outbound_cases reclaim externalAddress now internal remote with
    ⟨flow, -, result⟩ | ⟨-, ⟨-, result⟩ | ⟨port, rest, order, result⟩⟩
  · rwa [result]
  · rwa [result]
  · rw [result]
    have fresh : ∀ other ∈ (state.consulted reclaim now (leaving internal remote)).table.flows,
        other.external ≠ ⟨externalAddress, port⟩ := by
      refine looked.untracked port ?_
      rw [order]
      exact List.mem_cons_self ..
    refine (looked.tail order).opened (Or.inl rfl) ?_ (fun other tracked _ => fresh other tracked)
      fun _ => fresh
    -- A port is free only once.
    intro other free same
    have once := looked.sound.nodup
    rw [order] at once
    exact (List.nodup_cons.mp once).1 ((Endpoint.mk.inj same).2 ▸ free)

/-- A new flow has a mapped socket, whose port is not free. -/
theorem inbound (guarded : state.Guarded allowed externalAddress []) (reclaim : Bool) (now : Nat)
    (remote external : Endpoint) :
    (state.inbound reclaim now remote external).2.Guarded allowed externalAddress [] := by
  have looked := guarded.consulted reclaim now (arriving remote external)
  rcases state.inbound_cases reclaim now remote external with
    ⟨flow, -, result⟩ | ⟨missed, ⟨-, result⟩ | ⟨internal, mapping, result⟩⟩
  · rwa [result]
  · rwa [result]
  · rw [result]
    have present := Dictionary.mem_keys_of_get? mapping
    refine looked.opened (Or.inr (guarded.permitted external present)) ?_ ?_ (by simp [Flow.fresh])
    · intro port free same
      refine looked.unmapped port free external ?_ (congrArg Endpoint.port same)
      rwa [consulted_statics]
    · -- The look-up was in vain, so no flow has both sockets.
      rw [consulted_table]
      exact FlowTable.lookupInbound_missed guarded.distinct missed

/-- A mapped port is withdrawn from the pool. -/
theorem mapping_added (guarded : state.Guarded allowed externalAddress [])
    (external internal : Endpoint) (permitted : allowed external) :
    (state.mapped external internal).Guarded allowed externalAddress [] where
  untracked port free := guarded.untracked port (List.mem_of_mem_erase free)
  -- The port that was withdrawn is not free, so every free one is another.
  unmapped port free mapping present := by
    obtain ⟨other, before⟩ := (PortPool.mem_reserve_iff guarded.sound).mp free
    rcases Dictionary.mem_keys_insert.mp present with rfl | earlier
    · exact Ne.symm other
    · exact guarded.unmapped port before mapping earlier
  dynamic := guarded.dynamic
  sound := guarded.sound.reserve _
  distinct := guarded.distinct
  settled := guarded.settled
  placed := guarded.placed
  permitted mapping present := by
    rcases Dictionary.mem_keys_insert.mp present with rfl | earlier
    · exact permitted
    · exact guarded.permitted mapping earlier
  confined := guarded.confined

/-- A mapping may go, and its port is given back unless something else holds it. -/
theorem mapping_removed (guarded : state.Guarded allowed externalAddress []) (external : Endpoint) :
    (state.unmapped external).Guarded allowed externalAddress [] := by
  rw [PortState.unmapped]
  split
  · rename_i present
    have own := guarded.permitted external (Dictionary.contains_iff.mp present)
    -- Fewer mappings hold fewer ports.
    have without : Guarded allowed externalAddress []
        { state with statics := state.statics.erase external } :=
      { guarded with
        unmapped := fun port free mapping present =>
          guarded.unmapped port free mapping (Dictionary.mem_keys_erase.mp present).2
        permitted := fun mapping present =>
          guarded.permitted mapping (Dictionary.mem_keys_erase.mp present).2 }
    exact without.freed (Or.inr own)
  · exact guarded

/-- Every operation keeps the guard. -/
theorem change {reclaim : Bool} {now : Nat} {after : PortState}
    (guarded : state.Guarded allowed externalAddress [])
    (change : Change allowed reclaim externalAddress now state after) :
    after.Guarded allowed externalAddress [] := by
  -- Each operation has its own reason why the free ports stay in nobody's use.
  cases change with
  | same => exact guarded
  | outbound internal remote => exact guarded.outbound reclaim now internal remote
  | inbound remote external => exact guarded.inbound reclaim now remote external
  | mapped external internal permitted => exact guarded.mapping_added external internal permitted
  | unmapped external => exact guarded.mapping_removed external

/-- A pool of the whole range is guarded as long as nobody uses it. -/
theorem initial {first last : UInt16} (timeout sweepInterval now : Nat) (order : ReleaseOrder)
    (confined : ∀ socket, allowed socket → first ≤ socket.port → socket.port ≤ last →
      socket.address = externalAddress) :
    Guarded allowed externalAddress []
      ⟨.empty timeout sweepInterval now order, .ofRange first last, .empty⟩ where
  untracked _ _ _ tracked := by cases tracked
  unmapped _ _ _ present := by cases present
  dynamic := List.Pairwise.nil
  sound := PortPool.ofRange_sound first last
  distinct := List.Pairwise.nil
  settled := rfl
  placed _ tracked := by cases tracked
  permitted _ present := by cases present
  confined socket permitted within := by
    -- Only the sockets that may be mapped have something to show.
    obtain ⟨above, below⟩ := PortPool.inRange_iff.mp within
    exact confined socket permitted above below

end Guarded

end NetworkLayer.PortState

namespace NetworkLayer.Translator

/-- The guard over the states of all protocols. -/
structure Guarded (allowed : Endpoint → Prop) (translator : Translator) : Prop where
  ports : ∀ protocol, (translator.ports protocol).Guarded allowed translator.externalAddress []
  icmp : translator.icmp.Guarded translator.externalAddress

variable {allowed : Endpoint → Prop} {translator : Translator}

/-- Every operation keeps the guard. -/
theorem Guarded.change {now : Nat} {after : Translator} (guarded : translator.Guarded allowed)
    (change : Change allowed now translator after) : after.Guarded allowed where
  ports protocol := by
    -- The guard speaks of the external address, which no operation changes.
    rw [change.externalAddress]
    exact (guarded.ports protocol).change (change.ports protocol)
  icmp := by
    rw [change.externalAddress]
    exact guarded.icmp.change change.icmp

/-- A new translator is guarded if the sockets of other addresses are out of its range. -/
theorem create_guarded {inside outside : Side} {config : TranslatorConfig} {start : Nat}
    (created : create inside outside config start = .ok translator)
    (confined : ∀ socket, allowed socket → config.firstPort ≤ socket.port →
      socket.port ≤ config.lastPort → socket.address = translator.externalAddress) :
    translator.Guarded allowed := by
  obtain ⟨ports, icmp, -⟩ := create_eq_ok created
  -- There is nothing yet that could hold a port.
  constructor
  · intro protocol
    rw [ports]
    exact PortState.Guarded.initial _ _ _ _ confined
  · refine icmp ▸ ⟨?_, ?_⟩
    · rw [EchoState.ofTable_table]
      exact fun _ tracked => (by cases tracked)
    · rw [EchoState.ofTable_table]
      exact List.Pairwise.nil

/-- Every run keeps the guard. -/
theorem Session.run_guarded (session : Session) (guarded : session.translator.Guarded allowed)
    {operations : List Operation}
    (permitted : ∀ operation ∈ operations, operation.MapsOnly allowed) :
    (session.run operations).translator.Guarded allowed := by
  -- By the induction over runs; time alone changes nothing.
  refine Session.run_induction allowed (fun current => current.translator.Guarded allowed)
    ?_ ?_ permitted guarded
  · intro now before after change guarded
    exact guarded.change change
  · intro now next translator _ guarded
    exact guarded

end NetworkLayer.Translator
