import NetworkLayer.Proofs.Translation.Guard
import NetworkLayer.Proofs.Translation.Symmetry

/-!
When one live flow at most ties an internal socket to a remote one. A mapping opens its flows without
regard to those that the internal socket opened itself, so the answer depends on which sockets may be
mapped.
-/

namespace NetworkLayer

namespace FlowTable

/-- No two live flows tie one internal socket to one remote socket. -/
def SingleLive (table : FlowTable) (now : Nat) : Prop :=
  table.flows.Pairwise fun left right =>
    left.isLive table.timeout now → right.isLive table.timeout now →
      left.internal = right.internal → left.remote ≠ right.remote

instance (table : FlowTable) (now : Nat) : Decidable (table.SingleLive now) :=
  inferInstanceAs (Decidable (table.flows.Pairwise _))

/-- No two flows tie one internal socket to one remote socket, whether they are live or not. -/
def Single (table : FlowTable) : Prop :=
  table.flows.Pairwise fun left right => left.internal = right.internal → left.remote ≠ right.remote

/-- No flow was seen later than at the given time. -/
def SeenBy (table : FlowTable) (now : Nat) : Prop :=
  ∀ flow ∈ table.flows, flow.lastSeen ≤ now

namespace SeenBy

variable {table : FlowTable} {now : Nat} (seen : table.SeenBy now)
include seen

/-- A look-up sees a flow at its own time, if it sees one. -/
theorem lookup (selected : Flow → Bool) : (table.lookup now selected).2.SeenBy now := by
  have swept : ∀ flow ∈ (table.sweepIfDue now).flows, flow.lastSeen ≤ now :=
    fun flow kept => seen flow ((sweepIfDue_sublist table now).subset kept)
  intro flow tracked
  -- A look-up takes nothing out, refreshes one flow, or takes one out.
  rcases lookup_cases table now selected with
    ⟨-, result⟩ | ⟨front, first, back, split, -, -, ⟨-, result⟩ | ⟨-, result⟩⟩
  · rw [result] at tracked
    exact swept flow tracked
  · rw [result] at tracked
    rw [split] at swept
    rcases List.mem_append.mp tracked with before | found
    · exact swept flow (List.mem_append_left _ before)
    rcases List.mem_cons.mp found with rfl | behind
    · exact Nat.le_refl now
    · exact swept flow (List.mem_append_right _ (List.mem_cons_of_mem _ behind))
  · rw [result] at tracked
    rw [split] at swept
    rcases List.mem_append.mp tracked with before | behind
    · exact swept flow (List.mem_append_left _ before)
    · exact swept flow (List.mem_append_right _ (List.mem_cons_of_mem _ behind))

/-- A flow that was seen in time may be added. -/
theorem added {flow : Flow} (inTime : flow.lastSeen ≤ now) :
    SeenBy { table with flows := table.flows ++ [flow] } now := by
  intro other member
  rcases List.mem_append.mp member with tracked | new
  · exact seen other tracked
  · rw [List.mem_singleton.mp new]
    exact inTime

/-- Without a timeout no flow is live once it has been seen. -/
theorem singleLive (never : table.timeout = 0) : table.SingleLive now := by
  refine List.Pairwise.imp_of_mem (R := fun _ _ => True) ?_ (List.pairwise_of_forall fun _ _ => trivial)
  intro left right tracked _ _ live
  have inTime := seen left tracked
  simp only [Flow.isLive, never, Nat.add_zero, decide_eq_true_eq] at live
  exact absurd inTime (Nat.not_le.mpr live)

end SeenBy

namespace Single

variable {table : FlowTable} (single : table.Single)
include single

/-- If no two flows tie two sockets, no two live flows do. -/
theorem live (now : Nat) : table.SingleLive now := by
  refine List.Pairwise.imp ?_ single
  intro left right apart _ _
  exact apart

/-- Flows stay single as they age. -/
theorem aged {after : FlowTable} {now : Nat} (aged : Aged table after now) : after.Single :=
  aged.pairwise (fun left right => left.internal = right.internal → left.remote ≠ right.remote)
    single

/-- A flow may be added between two sockets that no other flow ties. -/
theorem added {flow : Flow}
    (apart : ∀ other ∈ table.flows, other.internal = flow.internal → other.remote ≠ flow.remote) :
    Single { table with flows := table.flows ++ [flow] } := by
  refine List.pairwise_append.mpr ⟨single, by simp, ?_⟩
  intro other tracked new member
  rw [List.mem_singleton.mp member]
  exact apart other tracked

/-- After a look-up in vain no flow ties the internal socket to the remote one. -/
theorem lookupOutbound_missed {now : Nat} {internal remote : Endpoint}
    (missed : (table.lookupOutbound now internal remote).1 = none) :
    ∀ flow ∈ (table.lookupOutbound now internal remote).2.flows,
      flow.internal = internal → flow.remote ≠ remote := by
  intro flow tracked sameInternal sameRemote
  refine lookup_missed ?_ missed flow tracked (by simp [sameInternal, sameRemote])
  -- Two flows that are both selected would tie the same two sockets.
  refine List.Pairwise.imp ?_ single
  intro left right apart first second
  simp only [Bool.and_eq_true, beq_iff_eq] at first second
  exact apart (first.2.trans second.2.symm) (first.1.trans second.1.symm)

end Single

end FlowTable

namespace EchoState

/-- No operation sees a flow later than at its own time. -/
theorem Change.seenBy {externalAddress : Address .v4} {now : Nat} {state after : EchoState}
    (change : Change externalAddress now state after) (seen : state.table.SeenBy now) :
    after.table.SeenBy now := by
  have looked (selected : Flow → Bool) : (state.consulted now selected).table.SeenBy now := by
    rw [consulted_table]
    exact seen.lookup selected
  -- Apart from the look-ups, only a request adds a flow, which is seen now.
  cases change with
  | same => exact seen
  | inbound remote external => exact looked _
  | outbound internal remote =>
    rcases state.outbound_cases externalAddress now internal remote with
      ⟨flow, -, result⟩ | ⟨-, lastId, result | ⟨id, -, result⟩⟩
    · rw [result]
      exact looked _
    · rw [result]
      exact looked _
    · rw [result, ofTable_table]
      exact (looked _).added (Nat.le_refl now)

/-- Every operation keeps the echo flows single, since nothing opens one but a request. -/
theorem Change.single {externalAddress : Address .v4} {now : Nat} {state after : EchoState}
    (change : Change externalAddress now state after) (single : state.table.Single) :
    after.table.Single := by
  have looked (selected : Flow → Bool) : (state.consulted now selected).table.Single := by
    have aged := single.aged (state.table.lookup_aged now selected)
    rw [consulted_table]
    exact aged
  -- A new flow is opened only after the look-up has found none between its sockets.
  cases change with
  | same => exact single
  | inbound remote external => exact looked _
  | outbound internal remote =>
    rcases state.outbound_cases externalAddress now internal remote with
      ⟨flow, -, result⟩ | ⟨missed, lastId, result | ⟨id, -, result⟩⟩
    · rw [result]
      exact looked _
    · rw [result]
      exact looked _
    · rw [result, ofTable_table]
      refine (looked _).added ?_
      rw [consulted_table]
      exact single.lookupOutbound_missed missed

end EchoState

namespace PortState

/-- No operation sees a flow later than at its own time. -/
theorem Change.seenBy {allowed : Endpoint → Prop} {reclaim : Bool} {externalAddress : Address .v4}
    {now : Nat} {state after : PortState}
    (change : Change allowed reclaim externalAddress now state after)
    (seen : state.table.SeenBy now) : after.table.SeenBy now := by
  have looked (selected : Flow → Bool) : (state.consulted reclaim now selected).table.SeenBy now := by
    rw [consulted_table]
    exact seen.lookup selected
  -- Apart from the look-ups, only flows that are opened are new, and they are seen now.
  cases change with
  | same => exact seen
  | mapped external internal => exact seen
  | unmapped external =>
    rw [unmapped_table]
    exact seen
  | outbound internal remote =>
    rcases state.outbound_cases reclaim externalAddress now internal remote with
      ⟨flow, -, result⟩ | ⟨-, ⟨-, result⟩ | ⟨port, rest, -, result⟩⟩
    · rw [result]
      exact looked _
    · rw [result]
      exact looked _
    · rw [result]
      exact (looked _).added (Nat.le_refl now)
  | inbound remote external =>
    rcases state.inbound_cases reclaim now remote external with
      ⟨flow, -, result⟩ | ⟨-, ⟨-, result⟩ | ⟨internal, -, result⟩⟩
    · rw [result]
      exact looked _
    · rw [result]
      exact looked _
    · rw [result]
      exact (looked _).added (Nat.le_refl now)

/--
All flows go through one socket, since it has the only port of the range.

Then flows with one remote socket differ in their external sockets, or they are one flow.
-/
structure Narrow (allowed : Endpoint → Prop) (externalAddress : Address .v4) (state : PortState) :
    Prop extends Guarded allowed externalAddress [] state where
  single : state.table.Single
  through : ∀ socket, allowed socket → ∀ flow ∈ state.table.flows, flow.external = socket
  own : ∀ socket, allowed socket → socket.address = externalAddress
  /-- The port of an allowed socket is in the range, and no other port is. -/
  only : ∀ socket, allowed socket → ∀ port, state.pool.inRange port ↔ port = socket.port

namespace Narrow

variable {allowed : Endpoint → Prop} {externalAddress : Address .v4} {state : PortState}
  (narrow : state.Narrow allowed externalAddress)
include narrow

/-- Allowed sockets have the one port and the one address, so they are the same. -/
theorem socket_unique {left right : Endpoint} (leftIn : allowed left) (rightIn : allowed right) :
    left = right := by
  -- The address is the external one, and the port the only one of the range.
  have address := (narrow.own left leftIn).trans (narrow.own right rightIn).symm
  have port : left.port = right.port :=
    (narrow.only right rightIn left.port).mp ((narrow.only left leftIn left.port).mpr rfl)
  rcases left with ⟨leftAddress, leftPort⟩
  rcases right with ⟨rightAddress, rightPort⟩
  simp only at address port
  rw [address, port]

/-- A look-up keeps the flows in the one socket. -/
theorem consulted (reclaim : Bool) (now : Nat) (selected : Flow → Bool) :
    (state.consulted reclaim now selected).Narrow allowed externalAddress where
  toGuarded := narrow.toGuarded.consulted reclaim now selected
  single := by
    have aged := narrow.single.aged (state.table.lookup_aged now selected)
    rw [consulted_table]
    exact aged
  through socket permitted flow tracked := by
    rw [consulted_table] at tracked
    -- A look-up adds no flow, and what it leaves goes through the socket it went through.
    obtain ⟨old, before, same⟩ := (state.table.lookup_aged now selected).tracked_before tracked
    rw [← (Flow.sockets_of_unseen same).2.1]
    exact narrow.through socket permitted old before
  own := narrow.own
  only socket permitted port := by
    rw [consulted_inRange]
    exact narrow.only socket permitted port

/-- A packet from the inside opens a flow between sockets that have none, if any. -/
theorem outbound (reclaim : Bool) (now : Nat) (internal remote : Endpoint) :
    (state.outbound reclaim externalAddress now internal remote).2.Narrow allowed
      externalAddress := by
  have looked := narrow.consulted reclaim now (leaving internal remote)
  have guarded := narrow.toGuarded.outbound reclaim now internal remote
  rcases state.outbound_cases reclaim externalAddress now internal remote with
    ⟨flow, -, result⟩ | ⟨missed, ⟨-, result⟩ | ⟨port, rest, order, result⟩⟩
  · rwa [result]
  · rwa [result]
  rw [result] at guarded ⊢
  refine ⟨guarded, ?_, ?_, narrow.own, looked.only⟩
  · refine looked.single.added ?_
    rw [consulted_table]
    exact narrow.single.lookupOutbound_missed missed
  · -- The new flow is at a port of the range.
    intro socket permitted flow member
    rcases List.mem_append.mp member with tracked | new
    · exact looked.through socket permitted flow tracked
    · -- The port comes from the range, which has no other one than that of the socket.
      have free : port ∈ (state.consulted reclaim now (leaving internal remote)).pool.free := by
        rw [order]
        exact List.mem_cons_self ..
      have same : port = socket.port :=
        (looked.only socket permitted port).mp (looked.sound.inRange port free)
      rw [List.mem_singleton.mp new, Flow.fresh, same, ← narrow.own socket permitted]

/-- A packet from the outside opens a flow if no flow has its remote socket. -/
theorem inbound (reclaim : Bool) (now : Nat) (remote external : Endpoint) :
    (state.inbound reclaim now remote external).2.Narrow allowed externalAddress := by
  have looked := narrow.consulted reclaim now (arriving remote external)
  have guarded := narrow.toGuarded.inbound reclaim now remote external
  rcases state.inbound_cases reclaim now remote external with
    ⟨flow, -, result⟩ | ⟨missed, ⟨-, result⟩ | ⟨internal, mapping, result⟩⟩
  · rwa [result]
  · rwa [result]
  -- A mapping leads in only through a socket that is allowed.
  have mapped : allowed external := narrow.permitted external (Dictionary.mem_keys_of_get? mapping)
  rw [result] at guarded ⊢
  refine ⟨guarded, ?_, ?_, narrow.own, looked.only⟩
  · refine looked.single.added ?_
    intro other tracked _ sameRemote
    -- The other flow goes through the mapped socket too, so the look-up would have found it.
    have sameExternal := looked.through external mapped other tracked
    rw [consulted_table] at tracked
    exact FlowTable.lookupInbound_missed narrow.distinct missed other tracked sameRemote
      sameExternal
  · intro socket permitted flow member
    rcases List.mem_append.mp member with tracked | new
    · exact looked.through socket permitted flow tracked
    · rw [List.mem_singleton.mp new]
      exact narrow.socket_unique mapped permitted

/-- Every operation keeps the flows in the one socket. -/
theorem change {reclaim : Bool} {now : Nat} {after : PortState}
    (change : Change allowed reclaim externalAddress now state after) :
    after.Narrow allowed externalAddress := by
  have guarded := narrow.toGuarded.change change
  -- Mappings come and go without any flow, and they do not move the range.
  cases change with
  | same => exact narrow
  | outbound internal remote => exact narrow.outbound reclaim now internal remote
  | inbound remote external => exact narrow.inbound reclaim now remote external
  | mapped external internal _ =>
    exact ⟨guarded, narrow.single, narrow.through, narrow.own, narrow.only⟩
  | unmapped external =>
    refine ⟨guarded, ?_, ?_, narrow.own, ?_⟩
    · rw [unmapped_table]
      exact narrow.single
    · rw [unmapped_table]
      exact narrow.through
    · intro socket permitted port
      rw [unmapped_inRange]
      exact narrow.only socket permitted port

end Narrow

section Contested

variable {first last : UInt16} {socket : Endpoint} (timeout sweepInterval now : Nat) (order : ReleaseOrder)

/-- A state in which nothing has happened but that a socket was mapped to itself. -/
def mappedFirst (first last : UInt16) (socket : Endpoint) (timeout sweepInterval now : Nat)
    (order : ReleaseOrder) : PortState :=
  PortState.mapped ⟨.empty timeout sweepInterval now order, .ofRange first last, .empty⟩ socket socket

/-- A range with another port than that of the mapped socket has a free one. -/
theorem mappedFirst_free (ordered : first ≤ last)
    (other : ¬ (first = socket.port ∧ last = socket.port)) :
    (mappedFirst first last socket timeout sweepInterval now order).pool.free ≠ [] := by
  -- One end of the range is another port than that of the socket.
  obtain ⟨spare, above, below, different⟩ :
      ∃ port, first ≤ port ∧ port ≤ last ∧ port ≠ socket.port := by
    by_cases same : first = socket.port
    · exact ⟨last, ordered, UInt16.le_refl _, fun ends => other ⟨same, ends⟩⟩
    · exact ⟨first, UInt16.le_refl _, ordered, same⟩
  have free : spare ∈ (mappedFirst first last socket timeout sweepInterval now order).pool.free :=
    (PortPool.mem_reserve_iff (PortPool.ofRange_sound first last)).mpr
      ⟨different, List.mem_of_getElem? (PortPool.ofRange_port above below)⟩
  intro empty
  rw [empty] at free
  cases free

/-- The first packet from the inside takes a port that is not mapped. -/
theorem mappedFirst_outbound (ordered : first ≤ last)
    (other : ¬ (first = socket.port ∧ last = socket.port)) (reclaim : Bool)
    (externalAddress : Address .v4) (internal remote : Endpoint) :
    let start := mappedFirst first last socket timeout sweepInterval now order
    ∃ pool port, port ≠ socket.port ∧
      (start.outbound reclaim externalAddress now internal remote).2 =
        opened { start with pool } (.fresh internal ⟨externalAddress, port⟩ remote true now) := by
  intro start
  have swept : ¬ now + sweepInterval < now := Nat.not_lt.mpr (Nat.le_add_right ..)
  obtain ⟨missed, unchanged⟩ : (start.table.lookup now (leaving internal remote)).1 = none ∧
      start.consulted reclaim now (leaving internal remote) = start :=
    consulted_of_unselected reclaim rfl swept fun _ tracked => by cases tracked
  have cases := start.outbound_cases reclaim externalAddress now internal remote
  rw [unchanged] at cases
  rcases cases with ⟨flow, found, -⟩ | ⟨-, ⟨empty, -⟩ | ⟨port, rest, taken, result⟩⟩
  · cases missed.symm.trans found
  · exact absurd empty (mappedFirst_free timeout sweepInterval now order ordered other)
  · refine ⟨_, port, ?_, congrArg Prod.snd result⟩
    have free : port ∈ start.pool.free := by
      rw [taken]
      exact List.mem_cons_self ..
    -- The mapping withdrew its port, so the port that is handed out is another one.
    exact ((PortPool.mem_reserve_iff (PortPool.ofRange_sound first last)).mp free).1

/--
A mapped socket opens a second flow between two sockets, unless it has the only port.

The first one goes through another port, so the look-up for the second does not find it.
-/
theorem mappedFirst_not_single (ordered : first ≤ last)
    (other : ¬ (first = socket.port ∧ last = socket.port)) (lasting : 0 < timeout)
    (reclaim : Bool) (externalAddress : Address .v4) :
    let asked := ((mappedFirst first last socket timeout sweepInterval now order).outbound reclaim
      externalAddress now socket socket).2
    ¬ (asked.inbound reclaim now socket socket).2.table.SingleLive now := by
  obtain ⟨pool, port, different, result⟩ :=
    mappedFirst_outbound timeout sweepInterval now order ordered other reclaim externalAddress socket socket
  rw [result]
  intro asked single
  have elsewhere : (⟨externalAddress, port⟩ : Endpoint) ≠ socket :=
    fun same => different (congrArg Endpoint.port same)
  have swept : ¬ now + sweepInterval < now := Nat.not_lt.mpr (Nat.le_add_right ..)
  -- The flow from the inside went to another socket, so the packet from the outside finds none.
  obtain ⟨missed, unchanged⟩ : (asked.table.lookup now (arriving socket socket)).1 = none ∧
      asked.consulted reclaim now (arriving socket socket) = asked := by
    refine consulted_of_unselected reclaim rfl swept fun flow tracked => ?_
    rw [List.mem_singleton.mp tracked]
    simp [arriving, Flow.fresh, elsewhere]
  -- It finds the mapping instead.
  have mapping : asked.statics.get? socket = some socket := by
    simp [asked, opened, mappedFirst, mapped, Dictionary.insert, Dictionary.contains,
      Dictionary.get?, Dictionary.empty]
  have cases := asked.inbound_cases reclaim now socket socket
  rw [unchanged] at cases
  rcases cases with ⟨flow, found, -⟩ | ⟨-, ⟨unmapped, -⟩ | ⟨internal, found, result⟩⟩
  · cases missed.symm.trans found
  · cases unmapped.symm.trans mapping
  · obtain rfl := Option.some.inj (mapping.symm.trans found)
    rw [result] at single
    -- The flow of the packet from the inside stands before the one that the mapping has opened.
    have apart := (List.pairwise_cons.mp single).1 _ (List.mem_singleton.mpr rfl)
    have alive : now < now + timeout := Nat.lt_add_of_pos_right lasting
    exact apart (decide_eq_true alive) (decide_eq_true alive) rfl rfl

end Contested

end PortState

namespace Translator

variable {inside outside : Side} {config : TranslatorConfig} {start : Nat} {translator : Translator}
  {allowed : Endpoint → Prop}

/-- A translator is created with a range that has a port. -/
theorem create_range (created : create inside outside config start = .ok translator) :
    config.firstPort ≤ config.lastPort := by
  -- Creation refuses a range that is empty.
  simp only [create, bind, Except.bind] at created
  split at created
  · cases created
  split at created
  · cases created
  rename_i proper
  exact UInt16.not_lt.mp fun empty => proper (Or.inr empty)

/-- The flows of every protocol stay single if the only port of the range is mapped, or none. -/
theorem Session.run_single (created : create inside outside config start = .ok translator)
    (own : ∀ socket, allowed socket → socket.address = translator.externalAddress)
    (only : ∀ socket, allowed socket →
      config.firstPort = socket.port ∧ config.lastPort = socket.port)
    {operations : List Operation}
    (permitted : ∀ operation ∈ operations, operation.MapsOnly allowed)
    (protocol : TrackedProtocol) :
    ((Session.run ⟨start, translator⟩ operations).translator.table protocol).Single := by
  obtain ⟨ports, icmp, -⟩ := create_eq_ok created
  have ported (protocol : PortProtocol) :
      (((Session.run ⟨start, translator⟩ operations).translator.ports protocol).Narrow allowed
        translator.externalAddress) := by
    -- The ports of a protocol stay narrow: at first there are no flows, and each change keeps it.
    refine Session.run_ports allowed protocol
      (fun state => state.Narrow allowed translator.externalAddress) ?_ permitted ?_
    · intro now before after change narrow
      exact narrow.change change
    · simp only [ports]
      refine ⟨PortState.Guarded.initial _ _ _ _ fun socket allowed _ _ => own socket allowed,
        List.Pairwise.nil, fun _ _ _ tracked => (by cases tracked), own, ?_⟩
      intro socket allowed port
      obtain ⟨first, last⟩ := only socket allowed
      rw [PortPool.inRange_iff]
      simp only [PortPool.ofRange, first, last]
      exact ⟨fun ends => UInt16.le_antisymm ends.2 ends.1, fun same => by simp [same]⟩
  cases protocol with
  | tcp => exact (ported .tcp).single
  | udp => exact (ported .udp).single
  -- An echo is never mapped, so its flows are single without any condition.
  | icmp =>
    refine Session.run_induction allowed (fun current => current.translator.icmp.table.Single) ?_ ?_
      permitted ?_
    · intro now before after change single
      exact change.icmp.single single
    · intro now next translator _ single
      exact single
    · rw [icmp, EchoState.ofTable_table]
      exact List.Pairwise.nil

/-- In no run a flow was seen later than the clock shows. -/
theorem Session.run_seenBy (created : create inside outside config start = .ok translator)
    (operations : List Operation) (protocol : TrackedProtocol) :
    let session := Session.run ⟨start, translator⟩ operations
    (session.translator.table protocol).SeenBy session.now := by
  refine Session.run_induction (fun _ => True)
    (fun current => (current.translator.table protocol).SeenBy current.now) ?_ ?_
    (fun operation _ => operation.mapsOnly_any) ?_
  · intro now before after change seen
    cases protocol with
    | icmp => exact change.icmp.seenBy seen
    | tcp => exact (change.ports .tcp).seenBy seen
    | udp => exact (change.ports .udp).seenBy seen
  · intro now next translator later seen flow tracked
    exact Nat.le_trans (seen flow tracked) later
  · -- A new translator has seen no flow yet.
    intro flow tracked
    rw [create_table created protocol] at tracked
    cases tracked

/-- A mapping of a socket to itself, and one datagram each way between that socket and itself. -/
def doubling (socket : Endpoint) : List Operation :=
  [.addStatic .udp socket socket, .outbound (.datagram socket socket),
    .inbound (.datagram socket socket)]

/-- A mapped socket that has not the only port opens a second live flow between two sockets. -/
theorem doubling_not_single (created : create inside outside config start = .ok translator)
    (lasting : 0 < config.entryTimeout) {socket : Endpoint}
    (other : ¬ (config.firstPort = socket.port ∧ config.lastPort = socket.port)) :
    ¬ ((Session.run ⟨start, translator⟩ (doubling socket)).translator.table .udp).SingleLive
      start := by
  obtain ⟨ports, -, -⟩ := create_eq_ok created
  have mapped : Session.step ⟨start, translator⟩ (.addStatic .udp socket socket) = ⟨start,
      translator.withPorts .udp (PortState.mappedFirst config.firstPort config.lastPort socket
        config.entryTimeout config.sweepInterval start (config.releases.order PortProtocol.udp.tracked))⟩ := by
    rw [PortState.mappedFirst, ← ports .udp]
    rfl
  have doubled := PortState.mappedFirst_not_single config.entryTimeout config.sweepInterval start
    (config.releases.order PortProtocol.udp.tracked) (create_range created) other lasting
    translator.reclaimPorts translator.externalAddress
  have run : Session.run ⟨start, translator⟩ (doubling socket) =
      ((Session.step ⟨start, translator⟩ (.addStatic .udp socket socket)).step
        (.outbound (.datagram socket socket))).step (.inbound (.datagram socket socket)) := rfl
  -- Each operation works on the state of the protocol that the one before has left.
  rw [run, mapped, Session.step_datagram, Session.step_arriving_datagram]
  simp only [withPorts_ports_self, withPorts_externalAddress, withPorts_reclaimPorts]
  exact doubled

/--
One live flow at most ties an internal socket to a remote one if and only if no socket is mapped
but one that has the only port of the range.

Otherwise a mapped socket opens a flow where the internal socket has opened one already. Flows that
never live do not count.
-/
theorem run_single_iff (created : create inside outside config start = .ok translator)
    (allowed : Endpoint → Prop)
    (own : ∀ socket, allowed socket → socket.address = translator.externalAddress) :
    (∀ operations, (∀ operation ∈ operations, operation.MapsOnly allowed) →
      ∀ protocol, let session := Session.run ⟨start, translator⟩ operations
        (session.translator.table protocol).SingleLive session.now) ↔
    config.entryTimeout = 0 ∨ ∀ socket, allowed socket →
      config.firstPort = socket.port ∧ config.lastPort = socket.port := by
  constructor
  · intro single
    rcases Nat.eq_zero_or_pos config.entryTimeout with never | lasting
    · exact Or.inl never
    refine Or.inr fun socket permitted => Decidable.byContradiction fun other => ?_
    have mapsOnly : ∀ operation ∈ doubling socket, operation.MapsOnly allowed := by
      intro operation member
      simp only [doubling, List.mem_cons, List.not_mem_nil, or_false] at member
      rcases member with rfl | rfl | rfl
      · exact permitted
      · trivial
      · trivial
    exact doubling_not_single created lasting other (single (doubling socket) mapsOnly .udp)
  · rintro (never | only) operations permitted protocol session
    · -- A flow without a timeout has expired as soon as it is seen.
      have timeout : (session.translator.table protocol).timeout = 0 := by
        rw [Session.run_timeout, create_timeout created, never]
      exact (Session.run_seenBy created operations protocol).singleLive timeout
    · exact (Session.run_single created own only permitted protocol).live _

/-- With the only port of the range mapped, no run ties two sockets twice. -/
theorem run_single_with_only_port :
    ∃ translator, create lan wan onePort 0 = .ok translator ∧
      ∀ operations, (∀ operation ∈ operations, operation.MapsOnly fun socket =>
          socket = ⟨.ofNat 0x01020304, 6200⟩) →
        ∀ protocol, let session := Session.run ⟨0, translator⟩ operations
          (session.translator.table protocol).SingleLive session.now := by
  have created : create lan wan onePort 0 = .ok _ := rfl
  refine ⟨_, created, ?_⟩
  have iff := run_single_iff created (fun socket => socket = ⟨.ofNat 0x01020304, 6200⟩)
    (fun _ same => congrArg Endpoint.address same)
  exact iff.mpr (Or.inr fun _ same => by rw [same]; decide)

/-- A server that first asks a client and is then asked by it has two flows with it. -/
theorem server_and_client_tied_twice :
    ∃ translator, create lan wan {} 0 = .ok translator ∧
      let session := Session.run ⟨0, translator⟩
        [published 8080, .outbound answered, .inbound (requested 8080)]
      ¬ (session.translator.table .udp).SingleLive session.now := by
  have created : create lan wan {} 0 = .ok _ := rfl
  refine ⟨_, created, fun single => ?_⟩
  -- Both flows are live, and both are between the server and the client.
  revert single
  decide +kernel

end Translator

end NetworkLayer
