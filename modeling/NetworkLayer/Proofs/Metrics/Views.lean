import NetworkLayer.Proofs.Metrics.Receptions
import NetworkLayer.Proofs.Network

/-!
What a network shows of an IPv4 node: the station, its policy, and the metrics that it counts in. Main statement:
changes of the node and received packets are changes of that view.
-/

namespace NetworkLayer

/-- A node with the interfaces around it, its policy and its metrics. -/
structure View where
  station : Station .v4
  policy : Policy .v4
  metrics : Metrics

namespace View

/-- Number of routes of the node. -/
def routes (view : View) : Nat := view.station.node.table.routes.length

/-- Number of flows that the policy of the node tracks. -/
def tracked (view : View) : Nat := view.policy.tracked

/-- Routes, flows and gauges that stay as they are. Unless the node is alone in its metrics, somebody else may tell the
gauge of routes. -/
structure Kept (alone : Bool) (before after : View) : Prop where
  routes : after.routes = before.routes
  tracked : after.tracked = before.tracked
  translations : after.metrics.translations = before.metrics.translations
  told : alone = true → after.metrics.routes = before.metrics.routes

variable {alone : Bool} {before between after : View}

/-- A view keeps what it shows. -/
theorem Kept.refl (view : View) : Kept alone view view :=
  ⟨rfl, rfl, rfl, fun _ => rfl⟩

/-- What is kept twice is kept. -/
theorem Kept.trans (early : Kept alone before between) (late : Kept alone between after) :
    Kept alone before after where
  routes := late.routes.trans early.routes
  tracked := late.tracked.trans early.tracked
  translations := late.translations.trans early.translations
  told only := (late.told only).trans (early.told only)

end View

namespace Network

variable {network : Network} {node : NodeId} {view : View} {alone : Bool}

/-- What the network shows of a node. -/
def view? (network : Network) (node : NodeId) : Option View :=
  match network.v4.nodes.get? node with
  | none => none
  | some hosted =>
    (network.v4.policies.get? hosted.policy).map fun installed =>
      ⟨⟨hosted.node, network.v4.interfaces⟩, installed.policy, network.metrics hosted.registry⟩

/-- A node is shown if it is there with its policy. -/
theorem view?_eq_some_iff : network.view? node = some view ↔
    ∃ hosted installed, network.v4.nodes.get? node = some hosted ∧
      network.v4.policies.get? hosted.policy = some installed ∧
      view = ⟨⟨hosted.node, network.v4.interfaces⟩, installed.policy,
        network.metrics hosted.registry⟩ := by
  unfold view?
  -- Both the node and its policy are looked up, and each must be there.
  constructor
  · intro shown
    split at shown
    · cases shown
    · rename_i hosted there
      obtain ⟨installed, found, rfl⟩ := Option.map_eq_some_iff.mp shown
      exact ⟨hosted, installed, there, found, rfl⟩
  · rintro ⟨hosted, installed, there, found, rfl⟩
    rw [there]
    dsimp only
    rw [found, Option.map_some]

/-- A registry has what was recorded in it, and the others what they had. -/
theorem metrics_record (network : Network) (registry other : RegistryId) (tallies : List Tally) :
    (network.record registry tallies).metrics other =
      if other == registry then (network.metrics registry).record tallies
      else network.metrics other := by
  unfold record metrics
  dsimp only
  rw [Dictionary.get?_insert]
  split
  · rfl
  · rfl

/-- The network in which a node has reacted to a packet: its policy is replaced, and its metrics have what is
counted. -/
def reacted {family : Family} (network : Network) (hosted : HostedNode family)
    (result : Reaction family × Policy family) : Network :=
  (network.onSide family fun side => { side with
    policies := side.policies.modify hosted.policy fun installed =>
      { installed with policy := result.2 } }).record hosted.registry result.1.tallies

/-- When a node reacts, its metrics have what was counted, and the others what they had. -/
theorem metrics_reacted {family : Family} (network : Network) (hosted : HostedNode family)
    (result : Reaction family × Policy family) (registry : RegistryId) :
    (network.reacted hosted result).metrics registry =
      if registry == hosted.registry then
        (network.metrics hosted.registry).record result.1.tallies
      else network.metrics registry := by
  have same (other : RegistryId) : (network.onSide family fun side => { side with
      policies := side.policies.modify hosted.policy fun installed =>
        { installed with policy := result.2 } }).metrics other = network.metrics other := by
    cases family <;> rfl
  rw [reacted, metrics_record, same, same]

/-- Nothing happens where there is no node to hear a packet. -/
theorem follow_nobody {family : Family} (network : Network) {id : NodeId}
    (missing : (network.side family).nodes.get? id = none) (ingress : InterfaceId) (data : Bytes) :
    (network.follow (.heard (.node id) ingress data : Transit family)).1 = network := by
  unfold follow
  dsimp only
  rw [missing]

/-- A node that hears a packet reacts to it, and somebody may see that it is delivered. -/
theorem follow_node {family : Family} (network : Network) {id : NodeId}
    {hosted : HostedNode family} (there : (network.side family).nodes.get? id = some hosted)
    (ingress : InterfaceId) (data : Bytes) :
    ∃ events, (network.follow (.heard (.node id) ingress data : Transit family)).1 =
      { network.reacted hosted
          ((⟨hosted.node, (network.side family).interfaces⟩ : Station family).receive
            ((((network.side family).policies.get? hosted.policy).map (·.policy)).getD default)
            network.now ingress data) with events } := by
  unfold follow
  dsimp only
  rw [there]
  dsimp only
  -- Whether somebody sees the delivery only decides about the event.
  split
  · exact ⟨_, rfl⟩
  · exact ⟨_, rfl⟩

section Changes

variable (shown : network.view? node = some view)
include shown

/-- A node is shown as it is configured, and its metrics with what that counts. -/
theorem configure_view {α : Type} [Inhabited α]
    (step : Station .v4 → α × Station .v4 × List Tally) :
    (network.configure .v4 node step).2.view? node = some {
      station := (step view.station).2.1
      policy := view.policy
      metrics := view.metrics.record (step view.station).2.2 } := by
  obtain ⟨hosted, installed, there, found, rfl⟩ := view?_eq_some_iff.mp shown
  have side : (network.side .v4).nodes.get? node = some hosted := there
  rw [view?_eq_some_iff]
  -- The policy stays where it was, and the metrics are those of the same registry, which now hold the tallies.
  refine ⟨{ hosted with node := (step ⟨hosted.node, network.v4.interfaces⟩).2.1.node }, installed,
    ?_, ?_, ?_⟩
  · unfold configure
    dsimp only
    rw [side]
    exact (Dictionary.get?_insert).trans (if_pos (beq_self_eq_true node))
  · unfold configure
    dsimp only
    rw [side]
    exact found
  · unfold configure
    dsimp only
    rw [side]
    dsimp only
    rw [metrics_record, if_pos (beq_self_eq_true _)]
    rfl

/-- A node is shown changed, with the metrics that it had. -/
theorem onNode_view (change : Node .v4 → Node .v4) :
    (network.onNode .v4 node change).view? node =
      some { view with station := { view.station with node := change view.station.node } } := by
  obtain ⟨hosted, installed, there, found, rfl⟩ := view?_eq_some_iff.mp shown
  -- The policy and the registry of the node are the ones it had.
  rw [view?_eq_some_iff]
  refine ⟨{ hosted with node := change hosted.node }, installed, ?_, found, rfl⟩
  refine (Dictionary.get?_modify).trans ?_
  rw [if_pos (beq_self_eq_true node), there]
  rfl

/-- A node is shown with the policy that it is given. -/
theorem setPolicy_view (policy : Policy .v4) :
    (network.setPolicy node policy).2.view? node = some { view with policy } := by
  obtain ⟨hosted, installed, there, found, rfl⟩ := view?_eq_some_iff.mp shown
  -- The policy gets a new identity, under which the node finds it.
  have part : (network.setPolicy node policy).2.v4 = { network.v4 with
      policies := network.v4.policies.insert network.fresh ⟨policy, node, hosted.registry⟩
      nodes := network.v4.nodes.insert node { hosted with policy := network.fresh } } := by
    simp only [setPolicy, newId, onSide, there]
  rw [view?_eq_some_iff, part]
  refine ⟨{ hosted with policy := network.fresh }, ⟨policy, node, hosted.registry⟩, ?_, ?_, rfl⟩
  · exact (Dictionary.get?_insert).trans (if_pos (beq_self_eq_true node))
  · exact (Dictionary.get?_insert).trans (if_pos (beq_self_eq_true network.fresh))

/-- A received packet changes what is shown as the station says, and counts. -/
theorem follow_view (ingress : InterfaceId) (data : Bytes) :
    (network.follow (.heard (.node node) ingress data : Transit .v4)).1.view? node = some {
      station := view.station
      policy := (view.station.receive view.policy network.now ingress data).2
      metrics := view.metrics.record
        (view.station.receive view.policy network.now ingress data).1.tallies } := by
  obtain ⟨hosted, installed, there, found, rfl⟩ := view?_eq_some_iff.mp shown
  obtain ⟨events, result⟩ := network.follow_node there ingress data
  -- The policy that receives is the one that is shown.
  have policy : ((network.side .v4).policies.get? hosted.policy).map (·.policy) =
      some installed.policy := by
    rw [show (network.side .v4).policies.get? hosted.policy = some installed from found]
    rfl
  rw [result, policy, Option.getD_some]
  have interfaces : (network.side .v4).interfaces = network.v4.interfaces := rfl
  rw [interfaces]
  generalize (⟨hosted.node, network.v4.interfaces⟩ : Station .v4).receive installed.policy
    network.now ingress data = reaction
  rw [view?_eq_some_iff]
  -- The node is the same, its policy is the one after the packet, and its registry has counted.
  refine ⟨hosted, { installed with policy := reaction.2 }, there, ?_, ?_⟩
  · refine (Dictionary.get?_modify).trans ?_
    rw [if_pos (beq_self_eq_true hosted.policy), found, Option.map_some]
  · have counted := network.metrics_reacted hosted reaction hosted.registry
    rw [if_pos (beq_self_eq_true _)] at counted
    rw [← counted]
    rfl

end Changes

end Network

end NetworkLayer
