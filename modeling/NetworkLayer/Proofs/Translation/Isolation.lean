import NetworkLayer.Proofs.Translation.Datagram
import NetworkLayer.Proofs.Translation.Guard

/-!
When no port is handed out twice. A mapping of another address gives its port back without regard
to the flow that holds it, so the answer depends on which sockets may be mapped.
-/

namespace NetworkLayer

namespace PortState

/-- After so many flows, the free ports are the rest of the range, in order. -/
structure Drawn (first last : UInt16) (externalAddress : Address .v4) (now count : Nat)
    (state : PortState) : Prop where
  order : state.pool.free = (PortPool.ofRange first last).free.drop count
  range : ∀ port, state.pool.inRange port ↔ first ≤ port ∧ port ≤ last
  unmapped : state.statics = .empty
  settled : state.table.released = []
  swept : ¬ state.table.lastSweep + state.table.sweepInterval < now
  /-- The flows came from different internal ports, counted from 0. -/
  earlier : ∀ flow ∈ state.table.flows, flow.internal.port.toNat < count
  placed : ∀ flow ∈ state.table.flows, flow.external.address = externalAddress

variable {first last : UInt16} {externalAddress : Address .v4} {now count : Nat}
  {state : PortState}

/-- The next flow takes the next port. -/
theorem Drawn.next (drawn : state.Drawn first last externalAddress now count)
    (small : count < 65536) {port : UInt16}
    (reached : (PortPool.ofRange first last).free[count]? = some port) (reclaim : Bool)
    (address : Address .v4) (remote : Endpoint) :
    let after :=
      (state.outbound reclaim externalAddress now ⟨address, UInt16.ofNat count⟩ remote).2
    after.Drawn first last externalAddress now (count + 1) ∧
      ∃ flow ∈ after.table.flows, flow.external = ⟨externalAddress, port⟩ := by
  intro after
  have index : (UInt16.ofNat count).toNat = count := UInt16.toNat_ofNat_of_lt' small
  have unselected : ∀ flow ∈ state.table.flows,
      leaving ⟨address, UInt16.ofNat count⟩ remote flow = false := by
    intro flow tracked
    have before := drawn.earlier flow tracked
    -- The flow came from an earlier port than the one that comes next.
    have other : flow.internal ≠ ⟨address, UInt16.ofNat count⟩ := fun same => by
      rw [same, index] at before
      exact Nat.lt_irrefl _ before
    simp [leaving, other]
  obtain ⟨missed, same⟩ :=
    consulted_of_unselected reclaim drawn.settled drawn.swept unselected
  -- The free ports are those from this one on, in their order.
  obtain ⟨within, here⟩ := List.getElem?_eq_some_iff.mp reached
  have order := drawn.order.trans (List.drop_eq_getElem_cons within)
  rw [here] at order
  have cases := state.outbound_cases reclaim externalAddress now
    ⟨address, UInt16.ofNat count⟩ remote
  rw [same] at cases
  -- No flow is found and some port is free, so the flow is opened with it.
  rcases cases with ⟨flow, found, -⟩ | ⟨-, ⟨empty, -⟩ | ⟨taken, rest, split, result⟩⟩
  · cases missed.symm.trans found
  · rw [order] at empty
    cases empty
  · obtain ⟨rfl, rfl⟩ := List.cons.inj (order.symm.trans split)
    have result := congrArg Prod.snd result
    simp only at result
    simp only [after, result]
    -- Each flow came from an earlier port or is the new one.
    refine ⟨⟨rfl, drawn.range, drawn.unmapped, drawn.settled, drawn.swept, ?_, ?_⟩, ?_⟩
    · intro flow member
      rcases List.mem_append.mp member with tracked | new
      · exact Nat.lt_succ_of_lt (drawn.earlier flow tracked)
      · rw [List.mem_singleton.mp new]
        exact Nat.lt_succ_of_le (Nat.le_of_eq index)
    · intro flow member
      rcases List.mem_append.mp member with tracked | new
      · exact drawn.placed flow tracked
      · rw [List.mem_singleton.mp new]
        rfl
    · exact ⟨_, List.mem_append_right _ (List.mem_singleton.mpr rfl), rfl⟩

/--
Mapping a socket of another address and taking the mapping out again frees its port.

A flow that holds the port at the external address does not count.
-/
theorem Drawn.port_freed (drawn : state.Drawn first last externalAddress now count)
    {socket : Endpoint} (above : first ≤ socket.port) (below : socket.port ≤ last)
    (elsewhere : socket.address ≠ externalAddress) (internal : Endpoint) :
    let after := (state.mapped socket internal).unmapped socket
    socket.port ∈ after.pool.free ∧ after.table = state.table := by
  intro after
  refine ⟨?_, by rw [unmapped_table]; rfl⟩
  have present : (state.mapped socket internal).statics.contains socket :=
    Dictionary.contains_iff.mpr (Dictionary.mem_keys_insert.mpr (Or.inl rfl))
  simp only [after, PortState.unmapped, present, if_true, freed]
  -- The only mapping is gone, and the flows are all at the external address.
  rw [if_neg]
  · exact PortPool.mem_release_iff.mpr (Or.inr ⟨rfl, (drawn.range socket.port).mpr ⟨above, below⟩⟩)
  rw [holds_iff]
  rintro (⟨mapping, left, -⟩ | ⟨flow, tracked, same⟩)
  · obtain ⟨other, inserted⟩ := Dictionary.mem_keys_erase.mp left
    rcases Dictionary.mem_keys_insert.mp inserted with own | earlier
    · exact other own
    · rw [drawn.unmapped] at earlier
      cases earlier
  · exact elsewhere (same ▸ drawn.placed flow tracked)

end PortState

namespace Translator

/-- A datagram from an internal port of its own. -/
def drawing (index : Nat) : Operation :=
  .outbound (.datagram ⟨.unspecified, UInt16.ofNat index⟩ ⟨.unspecified, 0⟩)

/-- A session in which nothing has happened but that so many flows took the first ports. -/
structure Session.Drawn (first last : UInt16) (externalAddress : Address .v4) (start count : Nat)
    (session : Session) : Prop where
  now : session.now = start
  own : session.translator.externalAddress = externalAddress
  ports : (session.translator.ports .udp).Drawn first last externalAddress start count

/-- The next datagram takes the next external port. -/
theorem Session.Drawn.next {first last : UInt16} {externalAddress : Address .v4}
    {start count : Nat} {session : Session}
    (drawn : session.Drawn first last externalAddress start count) (small : count < 65536)
    {port : UInt16} (reached : (PortPool.ofRange first last).free[count]? = some port) :
    let after := session.step (drawing count)
    after.Drawn first last externalAddress start (count + 1) ∧
      ∃ flow ∈ (after.translator.ports .udp).table.flows,
        flow.external = ⟨externalAddress, port⟩ := by
  intro after
  have result : after = _ := session.step_datagram ..
  obtain ⟨rfl, rfl, ports⟩ := drawn
  obtain ⟨next, taken⟩ := ports.next small reached session.translator.reclaimPorts .unspecified
    ⟨.unspecified, 0⟩
  rw [result]
  -- The datagram changed nothing but the state of its own protocol.
  refine ⟨⟨rfl, withPorts_externalAddress .., ?_⟩, ?_⟩
  · rwa [withPorts_ports_self]
  · rwa [withPorts_ports_self]

variable {inside outside : Side} {config : TranslatorConfig} {start : Nat} {translator : Translator}

/-- Datagrams from different ports take the external ports one after the other. -/
theorem Session.run_drawing (created : create inside outside config start = .ok translator)
    {count : Nat} (small : count ≤ config.lastPort.toNat + 1 - config.firstPort.toNat) :
    (Session.run ⟨start, translator⟩ ((List.range count).map drawing)).Drawn config.firstPort
      config.lastPort translator.externalAddress start count := by
  -- The induction is on the datagrams, each of which takes one port more.
  induction count with
  | zero =>
    obtain ⟨ports, -, -⟩ := create_eq_ok created
    refine ⟨rfl, rfl, ?_⟩
    simp only [List.range_zero, List.map_nil, Session.run, List.foldl_nil, ports]
    exact ⟨rfl, fun _ => PortPool.inRange_iff, rfl, rfl, Nat.not_lt.mpr (Nat.le_add_right ..),
      fun _ tracked => (by cases tracked), fun _ tracked => (by cases tracked)⟩
  | succ count ih =>
    -- There is a port left as long as the range is not used up.
    have bound : config.lastPort.toNat < 65536 := config.lastPort.toNat_lt
    have within : count < (PortPool.ofRange config.firstPort config.lastPort).free.length := by
      simp only [PortPool.ofRange, List.length_map, List.length_range]
      exact small
    rw [List.range_succ, List.map_append, Session.run_append]
    exact ((ih (Nat.le_of_succ_le small)).next (by omega) (List.getElem?_eq_getElem within)).1

/-- Putting a mapping in and taking it out again changes one state twice. -/
theorem Session.step_mapping (session : Session) (external internal : Endpoint) :
    ((session.step (.addStatic .udp external internal)).step
        (.removeStatic .udp external)).translator.ports .udp =
      ((session.translator.ports .udp).mapped external internal).unmapped external := by
  have added : session.step (.addStatic .udp external internal) = { session with
      translator := session.translator.withPorts .udp
        ((session.translator.ports .udp).mapped external internal) } := rfl
  have removed := (session.translator.withPorts .udp
    ((session.translator.ports .udp).mapped external internal)).removeStatic_tracked .udp external
  -- What is taken out is the state that was just put in.
  rw [withPorts_ports_self] at removed
  rw [added]
  exact (congrArg (·.ports .udp) removed).trans (withPorts_ports_self ..)

/-- Datagrams up to the one that takes a port, and a mapping of that port which comes and goes. -/
def contention (count : Nat) (socket : Endpoint) : List Operation :=
  (List.range count).map drawing ++
    [drawing count, .addStatic .udp socket socket, .removeStatic .udp socket]

/-- The only socket that is mapped is the given one. -/
theorem contention_mapsOnly {allowed : Endpoint → Prop} (count : Nat) {socket : Endpoint}
    (permitted : allowed socket) :
    ∀ operation ∈ contention count socket, operation.MapsOnly allowed := by
  intro operation member
  -- Of all these operations one alone is a mapping.
  rcases List.mem_append.mp member with drawn | last
  · obtain ⟨index, -, rfl⟩ := List.mem_map.mp drawn
    trivial
  · simp only [List.mem_cons, List.not_mem_nil, or_false] at last
    rcases last with rfl | rfl | rfl
    · trivial
    · exact permitted
    · trivial

/-- At the end of a contention one state has changed twice. -/
theorem Session.run_contention (session : Session) (count : Nat) (socket : Endpoint) :
    (session.run (contention count socket)).translator.ports .udp =
      ((((session.run ((List.range count).map drawing)).step (drawing count)).translator.ports
        .udp).mapped socket socket).unmapped socket := by
  rw [contention, Session.run_append, ← Session.step_mapping]
  rfl

/-- A port of the range is free and in use after a mapping of it at another address. -/
theorem contention_not_exclusive (created : create inside outside config start = .ok translator)
    {socket : Endpoint} (above : config.firstPort ≤ socket.port)
    (below : socket.port ≤ config.lastPort)
    (elsewhere : socket.address ≠ translator.externalAddress) :
    ¬ ((Session.run ⟨start, translator⟩ (contention (socket.port.toNat - config.firstPort.toNat)
      socket)).translator.ports .udp).Exclusive translator.externalAddress := by
  have reached := PortPool.ofRange_port above below
  have order : socket.port.toNat ≤ config.lastPort.toNat := UInt16.le_iff_toNat_le.mp below
  have bound : config.lastPort.toNat < 65536 := config.lastPort.toNat_lt
  -- A flow takes the port, and then the mapping gives it back.
  obtain ⟨drawn, flow, tracked, holds⟩ :=
    (Session.run_drawing created (by omega)).next (by omega) reached
  obtain ⟨free, kept⟩ := drawn.ports.port_freed above below elsewhere socket
  rw [← Session.run_contention] at free kept
  rw [← kept] at tracked
  intro exclusive
  exact exclusive.untracked socket.port free flow tracked holds

/--
No port is handed out twice if and only if the ports of the range are mapped at the external address
alone.

Otherwise a mapping of another address, taken out again, gives back a port that a flow still holds.
-/
theorem run_exclusive_iff (created : create inside outside config start = .ok translator)
    (allowed : Endpoint → Prop) :
    (∀ operations, (∀ operation ∈ operations, operation.MapsOnly allowed) →
      ∀ protocol, ((Session.run ⟨start, translator⟩ operations).translator.ports
        protocol).Exclusive translator.externalAddress) ↔
    ∀ socket, allowed socket → config.firstPort ≤ socket.port → socket.port ≤ config.lastPort →
      socket.address = translator.externalAddress := by
  constructor
  · intro exclusive socket permitted above below
    -- A mapping of another address would break some run.
    refine Decidable.byContradiction fun elsewhere => ?_
    exact contention_not_exclusive created above below elsewhere
      (exclusive _ (contention_mapsOnly _ permitted) .udp)
  · intro confined operations permitted protocol
    have guarded := Session.run_guarded ⟨start, translator⟩ (create_guarded created confined)
      permitted
    have kept := (guarded.ports protocol).toExclusive
    rwa [Session.run_externalAddress] at kept

/-- With mappings of the external address alone, no run hands a port out twice. -/
theorem run_exclusive_at_external :
    ∃ translator, create lan wan onePort 0 = .ok translator ∧
      ∀ operations, (∀ operation ∈ operations, operation.MapsOnly fun socket =>
          socket.address = translator.externalAddress) →
        ∀ protocol, ((Session.run ⟨0, translator⟩ operations).translator.ports
          protocol).Exclusive translator.externalAddress := by
  have created : create lan wan onePort 0 = .ok _ := rfl
  exact ⟨_, created, (run_exclusive_iff created _).mpr fun _ own _ _ => own⟩

/-- A mapping of another address that comes and goes lets two hosts have the only port at once. -/
theorem only_port_handed_out_twice :
    ∃ translator, create lan wan onePort 0 = .ok translator ∧
      ¬ ((Session.run ⟨0, translator⟩ [
        .outbound (.datagram host server),
        .addStatic .udp ⟨.ofNat 0x09090909, 6200⟩ ⟨.ofNat 0x0A00000A, 53⟩,
        .removeStatic .udp ⟨.ofNat 0x09090909, 6200⟩,
        .outbound (.datagram ⟨.ofNat 0x0A000006, 5000⟩ server)]).translator.ports
          .udp).Exclusive translator.externalAddress := by
  have created : create lan wan onePort 0 = .ok _ := rfl
  refine ⟨_, created, fun exclusive => ?_⟩
  have apart := exclusive.dynamic
  -- Both flows are dynamic, and both have the only port.
  revert apart
  decide +kernel

end Translator

end NetworkLayer
