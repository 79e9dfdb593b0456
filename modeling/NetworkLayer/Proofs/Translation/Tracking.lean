import NetworkLayer.Proofs.Translation.Guard

/-!
Flows over time. Every packet that is translated belongs to a flow that is tracked from then on, and
a flow outlasts every run that ends before its timeout.
-/

namespace NetworkLayer

namespace FlowTable

/-- A flow between given sockets is tracked that was seen at a given time or later. -/
def Tracks (table : FlowTable) (since : Nat) (internal external remote : Endpoint) : Prop :=
  ∃ flow ∈ table.flows, since ≤ flow.lastSeen ∧
    flow.internal = internal ∧ flow.external = external ∧ flow.remote = remote

variable {table : FlowTable} {since now : Nat} {internal external remote : Endpoint}

/-- Before the timeout a flow stays tracked. -/
theorem Keeps.tracks {after : FlowTable} (keeps : Keeps table after now)
    (tracks : table.Tracks since internal external remote) (reached : since ≤ now)
    (soon : now < since + table.timeout) : after.Tracks since internal external remote := by
  obtain ⟨flow, tracked, seen, rfl, rfl, rfl⟩ := tracks
  -- The flow has been seen lately enough to be live, and live flows are kept.
  have live : flow.isLive table.timeout now := decide_eq_true (by omega)
  obtain ⟨kept, member, same, time⟩ := keeps.live flow tracked live
  exact ⟨kept, member, by omega, Flow.sockets_of_unseen same⟩

/-- What a look-up finds on the way out is tracked from now on. -/
theorem lookupOutbound_tracks {flow : Flow}
    (found : (table.lookupOutbound now internal remote).1 = some flow) :
    (table.lookupOutbound now internal remote).2.Tracks now internal flow.external remote := by
  refine ⟨flow, lookup_found_mem found, ?_⟩
  obtain ⟨old, first, -, rfl⟩ := lookup_eq_some_iff.mp found
  -- The flow that is found was selected by its internal and remote sockets.
  have selected := List.find?_some first
  simp only [Bool.and_eq_true, beq_iff_eq] at selected
  exact ⟨Nat.le_refl now, selected.2, rfl, selected.1⟩

/-- What a look-up finds on the way in is tracked from now on. -/
theorem lookupInbound_tracks {flow : Flow}
    (found : (table.lookupInbound now remote external).1 = some flow) :
    (table.lookupInbound now remote external).2.Tracks now flow.internal external remote := by
  refine ⟨flow, lookup_found_mem found, ?_⟩
  obtain ⟨old, first, -, rfl⟩ := lookup_eq_some_iff.mp found
  -- The flow that is found was selected by its external and remote sockets.
  have selected := List.find?_some first
  simp only [Bool.and_eq_true, beq_iff_eq] at selected
  exact ⟨Nat.le_refl now, rfl, selected.2, selected.1⟩

/-- Before the timeout a tracked flow is found on the way in. -/
theorem Tracks.lookupInbound (tracks : table.Tracks since internal external remote)
    (distinct : table.Distinct) (soon : now < since + table.timeout) :
    ∃ flow, (table.lookupInbound now remote external).1 = some flow ∧
      flow.internal = internal := by
  obtain ⟨flow, tracked, seen, rfl, rfl, rfl⟩ := tracks
  have live : flow.isLive table.timeout now := decide_eq_true (by omega)
  exact ⟨_, lookupInbound_of_live distinct tracked live, rfl⟩

end FlowTable

section States

variable {now : Nat} {internal external remote : Endpoint} {flow : Flow}

/-- A new flow is tracked from now on. -/
theorem PortState.opened_tracks (state : PortState) (flow : Flow) (seen : now ≤ flow.lastSeen) :
    (state.opened flow).table.Tracks now flow.internal flow.external flow.remote :=
  ⟨flow, List.mem_append_right _ (List.mem_singleton.mpr rfl), seen, rfl, rfl, rfl⟩

/-- The flow through which a packet with ports leaves is tracked from now on. -/
theorem PortState.outbound_tracks {state : PortState} {reclaim : Bool}
    {externalAddress : Address .v4}
    (found : (state.outbound reclaim externalAddress now internal remote).1 = some flow) :
    (state.outbound reclaim externalAddress now internal remote).2.table.Tracks now internal
      flow.external remote := by
  -- The flow was found and refreshed, or it is new.
  rcases state.outbound_cases reclaim externalAddress now internal remote with
    ⟨old, lookedUp, result⟩ | ⟨-, ⟨-, result⟩ | ⟨port, rest, -, result⟩⟩
  · rw [result] at found ⊢
    cases found
    rw [consulted_table]
    exact FlowTable.lookupOutbound_tracks lookedUp
  · rw [result] at found
    cases found
  · rw [result] at found ⊢
    cases found
    exact opened_tracks _ _ (Nat.le_refl now)

/-- The flow through which an echo leaves is tracked from now on. -/
theorem EchoState.outbound_tracks {state : EchoState} {externalAddress : Address .v4}
    (found : (state.outbound externalAddress now internal remote).1 = some flow) :
    (state.outbound externalAddress now internal remote).2.table.Tracks now internal
      flow.external remote := by
  -- The flow was found and refreshed, or it is new.
  rcases state.outbound_cases externalAddress now internal remote with
    ⟨old, lookedUp, result⟩ | ⟨-, lastId, result | ⟨id, -, result⟩⟩
  · rw [result] at found ⊢
    cases found
    rw [consulted_table]
    exact FlowTable.lookupOutbound_tracks lookedUp
  · rw [result] at found
    cases found
  · rw [result] at found ⊢
    cases found
    rw [ofTable_table]
    exact ⟨_, List.mem_append_right _ (List.mem_singleton.mpr rfl), Nat.le_refl now, rfl, rfl, rfl⟩

/-- The flow through which an echo arrives is tracked from now on. -/
theorem EchoState.inbound_tracks {state : EchoState}
    (found : (state.inbound now remote external).1 = some flow) :
    (state.inbound now remote external).2.table.Tracks now flow.internal external remote := by
  rw [inbound_eq] at found ⊢
  rw [consulted_table]
  exact FlowTable.lookupInbound_tracks found

/-- The flow through which a packet with ports arrives is tracked from now on. -/
theorem PortState.inbound_tracks {state : PortState} {reclaim : Bool}
    (found : (state.inbound reclaim now remote external).1 = some flow) :
    (state.inbound reclaim now remote external).2.table.Tracks now flow.internal external
      remote := by
  -- The flow was found and refreshed, or it is new.
  rcases state.inbound_cases reclaim now remote external with
    ⟨old, lookedUp, result⟩ | ⟨-, ⟨-, result⟩ | ⟨internal, -, result⟩⟩
  · rw [result] at found ⊢
    cases found
    rw [consulted_table]
    exact FlowTable.lookupInbound_tracks lookedUp
  · rw [result] at found
    cases found
  · rw [result] at found ⊢
    cases found
    exact opened_tracks _ _ (Nat.le_refl now)

/-- Before the timeout a packet with ports arrives through the tracked flow. -/
theorem PortState.inbound_of_tracks {state : PortState} {since : Nat} (reclaim : Bool)
    (tracks : state.table.Tracks since internal external remote) (distinct : state.table.Distinct)
    (soon : now < since + state.table.timeout) :
    ∃ flow, (state.inbound reclaim now remote external).1 = some flow ∧
      flow.internal = internal := by
  obtain ⟨flow, found, own⟩ := tracks.lookupInbound distinct soon
  -- The look-up is not in vain, so no mapping is asked for.
  rcases state.inbound_cases reclaim now remote external with
    ⟨other, lookedUp, result⟩ | ⟨missed, -⟩
  · cases lookedUp.symm.trans found
    exact ⟨flow, by rw [result], own⟩
  · cases missed.symm.trans found

end States

namespace Translator

variable {allowed : Endpoint → Prop} {now : Nat} {translator : Translator}
  {protocol : TrackedProtocol}

/-- The flow through which a packet leaves is tracked from now on. -/
theorem flowOut_tracks {ends : Ends} {flow : Flow}
    (found : (translator.flowOut now protocol ends).1 = some flow) :
    ((translator.flowOut now protocol ends).2.table protocol).Tracks now ends.near flow.external
      ends.far := by
  cases protocol with
  | icmp => exact EchoState.outbound_tracks found
  | tcp => exact PortState.outbound_tracks found
  | udp => exact PortState.outbound_tracks found

/-- The flow through which a packet arrives is tracked from now on. -/
theorem flowIn_tracks {ends : Ends} {flow : Flow}
    (found : (translator.flowIn now protocol ends).1 = some flow) :
    ((translator.flowIn now protocol ends).2.table protocol).Tracks now flow.internal ends.near
      ends.far := by
  cases protocol with
  | icmp => exact EchoState.inbound_tracks found
  | tcp => exact PortState.inbound_tracks found
  | udp => exact PortState.inbound_tracks found

/-- Before the timeout a packet arrives through the tracked flow. -/
theorem flowIn_of_tracks {since : Nat} {internal : Endpoint} (ends : Ends)
    (tracks : (translator.table protocol).Tracks since internal ends.near ends.far)
    (guarded : translator.Guarded allowed)
    (soon : now < since + (translator.table protocol).timeout) :
    ∃ flow, (translator.flowIn now protocol ends).1 = some flow ∧ flow.internal = internal := by
  cases protocol with
  | icmp => exact tracks.lookupInbound guarded.icmp.distinct soon
  | tcp => exact PortState.inbound_of_tracks _ tracks (guarded.ports .tcp).distinct soon
  | udp => exact PortState.inbound_of_tracks _ tracks (guarded.ports .udp).distinct soon

/-- Every operation keeps the live flows of every protocol. -/
theorem Change.keeps {after : Translator} (change : Change allowed now translator after)
    (protocol : TrackedProtocol) :
    (translator.table protocol).Keeps (after.table protocol) now := by
  cases protocol with
  | icmp => exact change.icmp.keeps
  | tcp => exact (change.ports .tcp).keeps
  | udp => exact (change.ports .udp).keeps

/-- No run changes the timeout of a protocol. -/
theorem Session.run_timeout (session : Session) (operations : List Operation)
    (protocol : TrackedProtocol) :
    ((session.run operations).translator.table protocol).timeout =
      (session.translator.table protocol).timeout := by
  -- No operation changes the timeout of a table.
  refine Session.run_induction (fun _ => True) (fun current =>
    (current.translator.table protocol).timeout = (session.translator.table protocol).timeout)
    ?_ ?_ (fun operation _ => operation.mapsOnly_any) rfl
  · intro now before after change same
    exact (change.keeps protocol).timeout.trans same
  · intro now next translator _ same
    exact same

/-- A flow stays tracked over a run that ends before its timeout. -/
theorem Session.run_tracks (session : Session) (operations : List Operation) {since : Nat}
    {internal external remote : Endpoint}
    (tracks : (session.translator.table protocol).Tracks since internal external remote)
    (reached : since ≤ session.now)
    (soon : (session.run operations).now < since + (session.translator.table protocol).timeout) :
    ((session.run operations).translator.table protocol).Tracks since internal external remote := by
  have kept := Session.run_induction (fun _ => True) (fun current =>
    (current.translator.table protocol).timeout = (session.translator.table protocol).timeout ∧
    since ≤ current.now ∧
    (current.now < since + (session.translator.table protocol).timeout →
      (current.translator.table protocol).Tracks since internal external remote))
    ?changed ?later (fun operation (_ : operation ∈ operations) => operation.mapsOnly_any)
    ⟨rfl, reached, fun _ => tracks⟩
  case changed =>
    rintro now before after change ⟨timeout, reached, tracked⟩
    have keeps := change.keeps protocol
    refine ⟨keeps.timeout.trans timeout, reached, fun soon => ?_⟩
    exact keeps.tracks (tracked soon) reached (by rw [timeout]; exact soon)
  case later =>
    -- The clock never runs back, so at each operation the timeout is still to come.
    rintro now next translator later ⟨timeout, reached, tracked⟩
    exact ⟨timeout, Nat.le_trans reached later, fun soon => tracked (Nat.lt_of_le_of_lt later soon)⟩
  exact kept.2.2 soon

/-- A new translator has an empty table for each protocol. -/
theorem create_table {inside outside : Side} {config : TranslatorConfig} {start : Nat}
    (created : create inside outside config start = .ok translator) (protocol : TrackedProtocol) :
    translator.table protocol =
      .empty config.entryTimeout config.sweepInterval start (config.releases.order protocol) := by
  obtain ⟨ports, icmp, -⟩ := create_eq_ok created
  cases protocol with
  | icmp => exact (congrArg (·.table) icmp).trans (EchoState.ofTable_table ..)
  | tcp => exact congrArg (·.table) (ports .tcp)
  | udp => exact congrArg (·.table) (ports .udp)

/-- A new translator has the timeout of its settings. -/
theorem create_timeout {inside outside : Side} {config : TranslatorConfig} {start : Nat}
    (created : create inside outside config start = .ok translator) (protocol : TrackedProtocol) :
    (translator.table protocol).timeout = config.entryTimeout := by
  rw [create_table created protocol]
  rfl

/-- From a new translator on, a tracked flow stays until its timeout. -/
theorem Session.tracks_until_timeout {inside outside : Side} {config : TranslatorConfig}
    {start : Nat} (created : create inside outside config start = .ok translator)
    {before after : List Operation} {session later : Session}
    (reached : Session.run ⟨start, translator⟩ before = session)
    (continued : session.run after = later) {internal external remote : Endpoint} {since : Nat}
    (tracks : (session.translator.table protocol).Tracks since internal external remote)
    (seen : since ≤ session.now) (soon : later.now < since + config.entryTimeout) :
    (later.translator.table protocol).Tracks since internal external remote ∧
      (later.translator.table protocol).timeout = config.entryTimeout := by
  -- The timeout is the one of the settings all the time.
  have timeout : (session.translator.table protocol).timeout = config.entryTimeout := by
    rw [← reached, Session.run_timeout]
    exact create_timeout created protocol
  rw [← continued] at soon ⊢
  refine ⟨session.run_tracks after tracks seen (by rw [timeout]; exact soon), ?_⟩
  rw [Session.run_timeout, timeout]

end Translator

end NetworkLayer
