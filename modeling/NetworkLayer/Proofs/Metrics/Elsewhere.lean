import NetworkLayer.Network.Operation
import NetworkLayer.Proofs.Metrics.Drift

/-!
What happens elsewhere in a network. Main statement: whatever is done to IPv6 nodes, to interfaces and to frames, and
whatever other nodes make of a packet, a node keeps its routes, its flows and its gauges.
-/

namespace NetworkLayer.Network

variable {network before between after : Network} {node : NodeId} {alone : Bool} {drift : Drift}
  {family : Family}

/-- A network that shows a node with gauges that are off by so much. -/
def Drifts (alone : Bool) (node : NodeId) (drift : Drift) (network : Network) : Prop :=
  ∃ view, network.view? node = some view ∧ view.Drifts alone drift

/-- What happens in a network keeps the routes, the flows and the gauges of a node. -/
def Spares (alone : Bool) (node : NodeId) (before after : Network) : Prop :=
  ∀ view, before.view? node = some view →
    ∃ later, after.view? node = some later ∧ view.Kept alone later

/-- What is spared is as far off as before. -/
theorem Drifts.spared (drifts : before.Drifts alone node drift)
    (spares : Spares alone node before after) : after.Drifts alone node drift := by
  obtain ⟨view, shown, off⟩ := drifts
  obtain ⟨later, there, kept⟩ := spares view shown
  exact ⟨later, there, off.kept kept⟩

/-- Networks with the same nodes and policies of IPv4, and with gauges that stand the same. For nodes that are not alone
in their metrics, the gauges of routes are left out. -/
structure Quiet (alone : Bool) (before after : Network) : Prop where
  nodes : after.v4.nodes = before.v4.nodes
  policies : after.v4.policies = before.v4.policies
  translations : ∀ registry,
    (after.metrics registry).translations = (before.metrics registry).translations
  routes : alone = true → ∀ registry,
    (after.metrics registry).routes = (before.metrics registry).routes

namespace Quiet

/-- Where the metrics stay, the gauges do. -/
theorem of_same (nodes : after.v4.nodes = before.v4.nodes)
    (policies : after.v4.policies = before.v4.policies)
    (registries : after.registries = before.registries) : Quiet alone before after := by
  -- The same registries have the same metrics.
  have same (registry : RegistryId) : after.metrics registry = before.metrics registry := by
    rw [Network.metrics, registries, Network.metrics]
  refine ⟨nodes, policies, ?_, ?_⟩
  · intro registry
    rw [same]
  · intro _ registry
    rw [same]

/-- Nothing is disturbed where nothing happens. -/
theorem refl (network : Network) : Quiet alone network network :=
  .of_same rfl rfl rfl

/-- What is quiet twice is quiet. -/
theorem trans (early : Quiet alone before between) (late : Quiet alone between after) :
    Quiet alone before after where
  nodes := late.nodes.trans early.nodes
  policies := late.policies.trans early.policies
  translations registry := (late.translations registry).trans (early.translations registry)
  routes only registry := (late.routes only registry).trans (early.routes only registry)

/-- What is quiet spares every node. -/
theorem spares (quiet : Quiet alone before after) : Spares alone node before after := by
  intro view shown
  -- What is shown is found where it was.
  obtain ⟨hosted, installed, there, found, rfl⟩ := view?_eq_some_iff.mp shown
  refine ⟨⟨⟨hosted.node, after.v4.interfaces⟩, installed.policy, after.metrics hosted.registry⟩,
    ?_, rfl, rfl, quiet.translations _, fun only => quiet.routes only _⟩
  rw [view?_eq_some_iff]
  exact ⟨hosted, installed, quiet.nodes ▸ there, quiet.policies ▸ found, rfl⟩

/-- Time that passes is quiet. -/
theorem wait (network : Network) (now : Nat) : Quiet alone network { network with now } :=
  .of_same rfl rfl rfl

/-- A change of the IPv6 part is quiet. -/
theorem onSide_v6 (network : Network) (change : Side .v6 → Side .v6) :
    Quiet alone network (network.onSide .v6 change) :=
  .of_same rfl rfl rfl

/-- A change of an interface is quiet. -/
theorem onInterface (network : Network) (id : InterfaceId)
    (change : Interface family → Interface family) :
    Quiet alone network (network.onInterface family id change) := by
  cases family <;> exact .of_same rfl rfl rfl

/-- A job that gets ready is quiet. -/
theorem wake (network : Network) (job : Job) : Quiet alone network (network.wake job) := by
  unfold Network.wake
  split
  · exact .refl _
  · exact .of_same rfl rfl rfl

/-- What is counted without a word to the gauges is quiet. -/
theorem record (network : Network) (registry : RegistryId) {tallies : List Tally}
    (routes : alone = true → tallies.filterMap Tally.routes? = [])
    (translations : tallies.filterMap Tally.translations? = []) :
    Quiet alone network (network.record registry tallies) := by
  -- A gauge that is told nothing stands where it did, and the other registries are not touched.
  refine ⟨rfl, rfl, ?_, ?_⟩
  · intro other
    rw [metrics_record]
    split
    · rename_i same
      rw [Metrics.record_translations, translations, eq_of_beq same]
      rfl
    · rfl
  · intro only other
    rw [metrics_record]
    split
    · rename_i same
      rw [Metrics.record_routes, routes only, eq_of_beq same]
      rfl
    · rfl

/-- A change of an IPv6 node is quiet for nodes that are not alone in their metrics. -/
theorem configure_v6 {other : NodeId} {α : Type} [Inhabited α]
    {step : Station .v6 → α × Station .v6 × List Tally}
    (silent : ∀ station, (step station).2.2.filterMap Tally.translations? = []) :
    Quiet false network (network.configure .v6 other step).2 := by
  -- The change belongs to the other side, and its tallies to metrics that are shared.
  unfold configure
  dsimp only
  split
  · exact .refl _
  · exact (onSide_v6 _ _).trans
      (record _ _ (fun only => absurd only Bool.false_ne_true) (silent _))

section Ethernet

variable (network) (id : InterfaceId)

/-- What an adapter counts is quiet. -/
theorem countAt {tallies : List Tally} (routes : tallies.filterMap Tally.routes? = [])
    (translations : tallies.filterMap Tally.translations? = []) :
    Quiet alone network (network.countAt family id tallies) := by
  unfold Network.countAt
  split
  · exact record _ _ (fun _ => routes) translations
  · exact .refl _

/-- A frame that gets into a queue is quiet. -/
theorem enqueue (frame : Bytes) : Quiet alone network (network.enqueue family id frame).2 := by
  unfold Network.enqueue
  split
  · exact (onInterface _ _ _).trans (wake _ _)
  · exact .refl _

/-- A packet that is sent in a frame is quiet, and one that is dropped is. -/
theorem sendFrame (destination : Mac) (packet : Bytes) :
    Quiet alone network (network.sendFrame family id destination packet) := by
  unfold Network.sendFrame
  split
  · exact .refl _
  · rename_i adapter _
    have queued : Quiet alone network
        (network.enqueue family id (adapter.dataFrame destination packet)).2 :=
      enqueue network id _
    split
    · rename_i after result
      rw [result] at queued
      exact queued
    -- Where the queue is full, the packet is counted as dropped.
    · exact countAt network id rfl rfl

/-- A call to a resolver is quiet. -/
theorem call (target : Address family) (purpose : CallPurpose) :
    Quiet alone network (network.call id target purpose).2 := by
  have listed : Quiet alone network (network.newId.2.onSide family fun side =>
      { side with calls := side.calls.insert network.newId.1 ⟨id, target, purpose, false⟩ }) := by
    cases family <;> exact .of_same rfl rfl rfl
  exact listed.trans (wake _ _)

/-- A packet on Ethernet is quiet, whether it is sent, waits for its next hop or is dropped. -/
theorem sendOnEthernet (adapter : Adapter family) (packet : Bytes) (nextHop : Address family) :
    Quiet alone network (network.sendOnEthernet id adapter packet nextHop) := by
  unfold Network.sendOnEthernet
  dsimp only
  generalize adapter.resolver.lookup network.now nextHop = result
  obtain ⟨mac, resolver, hits⟩ := result
  have looked : Quiet alone network
      ((network.onInterface family id (·.withResolver fun _ => resolver)).countAt family id
        (hits.map .one)) := by
    refine (onInterface network id _).trans (countAt _ id ?_ ?_)
    · simp [Tally.one, Tally.routes?]
    · simp [Tally.one, Tally.translations?]
  dsimp only
  -- What follows on the look-up depends on whether the next hop is known and how many packets wait.
  split
  · exact looked.trans (sendFrame _ id _ _)
  · split
    · exact looked.trans (call _ id _ _)
    · exact looked.trans (countAt _ id rfl rfl)

end Ethernet

/-- A packet that is sent is quiet. -/
theorem follow_sent (sending : Sending family) :
    Quiet alone network (network.follow (.sent sending)).1 := by
  unfold Network.follow
  dsimp only
  -- Only an interface on a device sends to where a card is asked; the two others leave the network alone.
  split
  · exact .refl _
  · exact .refl _
  · split
    · exact sendOnEthernet network _ _ _ _
    · exact .refl _

/-- A tap that hears a packet is quiet. -/
theorem follow_tap (tap : TapId) (id : InterfaceId) (packet : Bytes) :
    Quiet alone network (network.follow (.heard (.tap tap) id packet : Transit family)).1 := by
  unfold Network.follow
  dsimp only
  split
  · exact .of_same rfl rfl rfl
  · exact .refl _

/-- An IPv6 node that reacts to a packet is quiet, since it tells nothing of routes and translates none. -/
theorem reacted_v6 (hosted : HostedNode .v6) {policy : Policy .v6}
    {result : Reaction .v6 × Policy .v6} (tells : policy.Tells result.2 result.1.tallies) :
    Quiet alone network (network.reacted hosted result) :=
  (onSide_v6 network _).trans
    (record _ hosted.registry (fun _ => tells.routes) (tells.untranslated rfl))

/-- An IPv6 node that hears a packet is quiet. -/
theorem follow_v6 (other : NodeId) (ingress : InterfaceId) (data : Bytes) :
    Quiet alone network (network.follow (.heard (.node other) ingress data : Transit .v6)).1 := by
  -- Without the node there is nobody to hear.
  cases there : (network.side .v6).nodes.get? other with
  | none =>
    rw [network.follow_nobody there]
    exact .refl _
  | some hosted =>
    obtain ⟨events, result⟩ := network.follow_node there ingress data
    rw [result]
    exact (reacted_v6 hosted (Station.receive_tells ..)).trans (.of_same rfl rfl rfl)

end Quiet

/-- No other node of IPv4 has the policy or the metrics of a node. -/
def Apart (node : NodeId) (network : Network) : Prop :=
  ∀ own other hosted, network.v4.nodes.get? node = some own →
    network.v4.nodes.get? other = some hosted → other ≠ node →
    hosted.policy ≠ own.policy ∧ hosted.registry ≠ own.registry

/-- Nodes stay apart where the nodes stay. -/
theorem Apart.of_nodes (apart : before.Apart node) (nodes : after.v4.nodes = before.v4.nodes) :
    after.Apart node := by
  unfold Apart
  rw [nodes]
  exact apart

/-- An IPv4 node that hears a packet leaves the nodes as they are. -/
theorem follow_heard_nodes (other : NodeId) (ingress : InterfaceId) (data : Bytes) :
    (network.follow (.heard (.node other) ingress data : Transit .v4)).1.v4.nodes =
      network.v4.nodes := by
  -- The reaction changes policy and metrics alone.
  cases there : (network.side .v4).nodes.get? other with
  | none => rw [network.follow_nobody there]
  | some hosted =>
    obtain ⟨events, result⟩ := network.follow_node there ingress data
    rw [result]
    rfl

/-- Another node that hears a packet spares a node that is apart from it. -/
theorem Apart.follow_spares (apart : network.Apart node) {other : NodeId} (different : other ≠ node)
    (ingress : InterfaceId) (data : Bytes) : Spares alone node network
      (network.follow (.heard (.node other) ingress data : Transit .v4)).1 := by
  cases there : (network.side .v4).nodes.get? other with
  | none =>
    rw [network.follow_nobody there]
    exact (Quiet.refl network).spares
  | some hosted =>
    obtain ⟨events, result⟩ := network.follow_node there ingress data
    rw [result]
    generalize (⟨hosted.node, (network.side .v4).interfaces⟩ : Station .v4).receive _ network.now
      ingress data = reaction
    -- The other node has a policy and metrics of its own, and these are all that changes.
    intro view shown
    obtain ⟨own, installed, hosting, found, rfl⟩ := view?_eq_some_iff.mp shown
    obtain ⟨policies, registries⟩ := apart own other hosted hosting there different
    refine ⟨_, ?_, .refl _⟩
    rw [view?_eq_some_iff]
    refine ⟨own, installed, hosting, ?_, ?_⟩
    · refine (Dictionary.get?_modify).trans ?_
      rw [if_neg (by simpa using policies.symm), found]
    · have counted := network.metrics_reacted hosted reaction own.registry
      rw [if_neg (by simpa using registries.symm)] at counted
      rw [← counted]
      rfl

end NetworkLayer.Network
