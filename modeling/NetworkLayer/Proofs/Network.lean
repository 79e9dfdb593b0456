import NetworkLayer.Network.Operation
import NetworkLayer.Proofs.Dictionary

/-!
What an operator's changes make of the part of one family in a network, and that they leave the other part
alone.
-/

namespace NetworkLayer.Network

variable {family : Family} {network : Network}

section Parts

/-- A changed part is the part that was changed. -/
@[simp] theorem side_onSide (network : Network) (change : Side family → Side family) :
    (network.onSide family change).side family = change (network.side family) := by
  cases family <;> rfl

/-- A change of a part leaves everything beside the parts alone. -/
theorem onSide_rest (network : Network) (change : Side family → Side family) :
    (network.onSide family change).registries = network.registries ∧
      (network.onSide family change).now = network.now ∧
      (network.onSide family change).fresh = network.fresh := by
  cases family <;> exact ⟨rfl, rfl, rfl⟩

/-- An interface stays as it is if its part does. -/
theorem interface_congr {other : Network} {id : InterfaceId}
    (side : other.side family = network.side family) :
    other.interface family id = network.interface family id := by
  rw [Network.interface, side, Network.interface]

/-- A node stays as it is, with the interfaces around it, if its part does. -/
theorem station?_congr {other : Network} {node : NodeId}
    (side : other.side family = network.side family) :
    other.station? family node = network.station? family node := by
  rw [station?, side, station?]

end Parts

/-- A network before and after a change of one family: the other part is the same, and no identity is
given twice. -/
structure Beside (family : Family) (before after : Network) : Prop where
  side : ∀ other, other ≠ family → after.side other = before.side other
  fresh : before.fresh ≤ after.fresh

namespace Beside

/-- Nothing changes where nothing is done. -/
theorem refl (family : Family) (network : Network) : Beside family network network :=
  ⟨fun _ _ => rfl, Nat.le_refl _⟩

/-- Two changes leave alone what each of them does. -/
theorem trans {before between after : Network} (early : Beside family before between)
    (late : Beside family between after) : Beside family before after :=
  ⟨fun other different => (late.side other different).trans (early.side other different),
    Nat.le_trans early.fresh late.fresh⟩

/-- A change of a part is one of its family. -/
theorem onSide (network : Network) (change : Side family → Side family) :
    Beside family network (network.onSide family change) := by
  refine ⟨fun other different => ?_, Nat.le_of_eq (onSide_rest network change).2.2.symm⟩
  -- Of the two families one is changed and the other is the rest.
  cases family with
  | v4 =>
    cases other with
    | v4 => exact absurd rfl different
    | v6 => rfl
  | v6 =>
    cases other with
    | v4 => rfl
    | v6 => exact absurd rfl different

/-- A new identity changes no part. -/
theorem newId (family : Family) (network : Network) : Beside family network network.newId.2 := by
  refine ⟨fun other _ => ?_, Nat.le_succ _⟩
  cases other <;> rfl

/-- What is counted changes no part. -/
theorem record (family : Family) (network : Network) (registry : RegistryId)
    (tallies : List Tally) : Beside family network (network.record registry tallies) := by
  refine ⟨fun other _ => ?_, Nat.le_refl _⟩
  cases other <;> rfl

end Beside

section Operations

variable {node : NodeId} {station : Station family}

/-- A node has the interfaces of its part around it. -/
theorem interfaces_of_station? (found : network.station? family node = some station) :
    station.interfaces = (network.side family).interfaces := by
  obtain ⟨hosted, -, rfl⟩ := Option.map_eq_some_iff.mp found
  rfl

/-- A node is in the changed part with the interfaces there. -/
theorem station?_onSide (network : Network) (change : Side family → Side family) :
    (network.onSide family change).station? family node =
      ((change (network.side family)).nodes.get? node).map fun hosted =>
        ⟨hosted.node, (change (network.side family)).interfaces⟩ := by
  rw [station?, side_onSide]

/-- What is counted changes no node. -/
theorem station?_record (registry : RegistryId) (tallies : List Tally) :
    (network.record registry tallies).station? family node = network.station? family node :=
  station?_congr (by cases family <;> rfl)

/-- A node is configured as the station around it is. -/
theorem configure_station {α : Type} [Inhabited α]
    (found : network.station? family node = some station)
    (step : Station family → α × Station family × List Tally) :
    (network.configure family node step).2.station? family node = some (step station).2.1 ∧
      Beside family network (network.configure family node step).2 := by
  rw [station?] at found
  obtain ⟨hosted, there, rfl⟩ := Option.map_eq_some_iff.mp found
  -- The station is taken apart into the node and the interfaces of its part, and counting follows.
  rw [configure]
  dsimp only
  rw [there]
  refine ⟨?_, (Beside.onSide network _).trans (.record ..)⟩
  dsimp only
  rw [station?_record, station?_onSide, Dictionary.get?_insert, if_pos (beq_self_eq_true node)]
  rfl

/-- A node is changed with the interfaces around it left as they are. -/
theorem onNode_station (found : network.station? family node = some station)
    (change : Node family → Node family) :
    (network.onNode family node change).station? family node =
      some { station with node := change station.node } := by
  obtain ⟨hosted, there, rfl⟩ := Option.map_eq_some_iff.mp found
  rw [onNode, station?_onSide, Dictionary.get?_modify, if_pos (beq_self_eq_true node), there]
  rfl

/-- An interface that is set up on a link has a new identity, and is there with what it starts with. -/
theorem addLinkInterface_station (found : network.station? family node = some station)
    (link : LinkId) (entry : Option (InterfaceAddress family)) :
    (network.addLinkInterface family link entry).1 = network.fresh ∧
      (network.addLinkInterface family link entry).2.station? family node =
        some { station with
          interfaces := station.interfaces.insert network.fresh (.onLink link entry) } ∧
      (network.addLinkInterface family link entry).2.fresh = network.fresh + 1 ∧
      Beside family network (network.addLinkInterface family link entry).2 := by
  -- The interface comes first and the link takes it as a member then, both in the same part.
  have side : (network.addLinkInterface family link entry).2.side family =
      { network.side family with
        interfaces := (network.side family).interfaces.insert network.fresh (.onLink link entry)
        links := (network.side family).links.modify link fun link =>
          { link with members := link.members ++ [network.fresh] }
        keptInterfaces := (network.side family).keptInterfaces ++ [network.fresh] } := by
    cases family <;> rfl
  obtain ⟨hosted, there, rfl⟩ := Option.map_eq_some_iff.mp found
  refine ⟨rfl, ?_, ?_, ?_⟩
  · rw [station?, side]
    dsimp only
    rw [there]
    rfl
  · cases family <;> rfl
  · exact (Beside.newId family network).trans ((Beside.onSide _ _).trans (.onSide _ _))

/-- A link that is set up changes no node. -/
theorem addLink_station {other : Family} (network : Network) (net : Prefix family) (node : NodeId) :
    (network.addLink net).2.station? other node = network.station? other node := by
  cases family <;> cases other <;> rfl

/-- A node that is set up is there without routes, and the nodes of the other family stay. -/
theorem addNode_station (network : Network) (family : Family) (settings : NodeSettings)
    (registry : RegistryId) :
    (∃ station, (network.addNode family settings registry).2.station? family
        (network.addNode family settings registry).1 = some station ∧
      station.node.table = .empty) ∧
      Beside family network (network.addNode family settings registry).2 := by
  constructor
  -- The node takes the first of three identities; its loopback is the second.
  · refine ⟨⟨.create settings (network.fresh + 1), (network.side family).interfaces.insert
      (network.fresh + 1) (Interface.loopback.addListener (.node network.fresh))⟩, ?_, rfl⟩
    rw [addNode]
    dsimp only
    rw [station?_onSide]
    dsimp only
    rw [Dictionary.get?_insert, newId, if_pos (beq_self_eq_true _)]
    cases family <;> rfl
  · exact (Beside.newId family network).trans
      ((Beside.newId ..).trans ((Beside.newId ..).trans (.onSide _ _)))

end Operations

end NetworkLayer.Network
