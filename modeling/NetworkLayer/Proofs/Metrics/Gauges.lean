import NetworkLayer.Metrics
import NetworkLayer.Proofs.Addressing.Changes

/-!
The gauge of routes is a copy of a number that is kept elsewhere. Main statement: whatever is done to the
interfaces and addresses of a node, the gauge is told of what it has made of the routing table.
-/

namespace NetworkLayer

/-- The number of routes that a change of metrics tells. -/
def Tally.routes? : Tally → Option Nat
  | .routes entries => some entries
  | _ => none

/-- The number of tracked translations that a change of metrics tells. -/
def Tally.translations? : Tally → Option Nat
  | .translations entries => some entries
  | _ => none

namespace Metrics

variable (metrics : Metrics)

/-- One change sets the gauge that it tells a number of, and no other. -/
theorem tally_gauges (change : Tally) :
    (metrics.tally change).routes = (change.routes?.map UInt64.ofNat).getD metrics.routes ∧
      (metrics.tally change).translations =
        (change.translations?.map UInt64.ofNat).getD metrics.translations := by
  cases change with
  | register interface =>
    -- A name that is registered already changes nothing at all.
    rw [tally]
    by_cases known : metrics.interfaces.contains interface
    · rw [if_pos known]
      exact ⟨rfl, rfl⟩
    · rw [if_neg known]
      exact ⟨rfl, rfl⟩
  | _ => exact ⟨rfl, rfl⟩

/-- A gauge that is set by what it is told, change by change, shows what it was told last. -/
theorem record_gauge {gauge : Metrics → UInt64} {told : Tally → Option Nat}
    (step : ∀ (metrics : Metrics) (change : Tally), gauge (metrics.tally change) =
      ((told change).map UInt64.ofNat).getD (gauge metrics)) (tallies : List Tally) :
    gauge (metrics.record tallies) =
      ((tallies.filterMap told).getLast?.map UInt64.ofNat).getD (gauge metrics) := by
  -- Changes are made from the first one on.
  induction tallies generalizing metrics with
  | nil => rfl
  | cons first rest ih =>
    have begun : metrics.record (first :: rest) = (metrics.tally first).record rest := rfl
    rw [begun, ih, step]
    cases number : told first with
    | none =>
      rw [List.filterMap_cons_none number]
      rfl
    | some entries =>
      rw [List.filterMap_cons_some number, List.getLast?_cons, Option.map_some, Option.map_some,
        Option.getD_some, Option.getD_some]
      cases (rest.filterMap told).getLast? <;> rfl

/-- The gauge of routes shows what it was told last. -/
theorem record_routes (tallies : List Tally) : (metrics.record tallies).routes =
    ((tallies.filterMap Tally.routes?).getLast?.map UInt64.ofNat).getD metrics.routes :=
  metrics.record_gauge (fun metrics change => (metrics.tally_gauges change).1) tallies

/-- The gauge of translations shows what it was told last. -/
theorem record_translations (tallies : List Tally) : (metrics.record tallies).translations =
    ((tallies.filterMap Tally.translations?).getLast?.map UInt64.ofNat).getD
      metrics.translations :=
  metrics.record_gauge (fun metrics change => (metrics.tally_gauges change).2) tallies

end Metrics

namespace Station

variable {family : Family}

/-- A station before and after a change: what is counted tells the number of routes after it at last, or it tells none
and the routes are the same. Nothing is told of translations. -/
structure Told (before after : Station family) (tallies : List Tally) : Prop where
  routes : (tallies.filterMap Tally.routes?).getLast? = some after.node.table.routes.length ∨
    tallies.filterMap Tally.routes? = [] ∧ after.node.table = before.node.table
  translations : tallies.filterMap Tally.translations? = []

namespace Told

variable {before between after : Station family} {tallies early late : List Tally}

/-- Of the same routes nothing has to be told. -/
theorem of_table (table : after.node.table = before.node.table)
    (routes : tallies.filterMap Tally.routes? = [])
    (translations : tallies.filterMap Tally.translations? = []) : Told before after tallies :=
  ⟨.inr ⟨routes, table⟩, translations⟩

/-- The number of routes after a change is told. -/
theorem of_tally (station : Station family) : Told before station [station.routesTally] :=
  ⟨.inl rfl, rfl⟩

/-- What two changes tell one after the other holds after both. -/
theorem trans (first : Told before between early) (second : Told between after late) :
    Told before after (early ++ late) := by
  constructor
  · rw [List.filterMap_append]
    rcases second.routes with told | ⟨untold, same⟩
    · left
      rw [List.getLast?_append, told]
      rfl
    -- What the first change has told still holds if the second one tells nothing.
    · rw [untold, List.append_nil, same]
      exact first.routes
  · rw [List.filterMap_append, first.translations, second.translations]
    rfl

end Told

section Changes

variable (station : Station family) (node : NodeId) (id : InterfaceId)

/-- Names change no route, and they tell no number. -/
theorem renamed_silent : station.renamed.1.node = station.node ∧
    station.renamed.2.filterMap Tally.routes? = [] ∧
    station.renamed.2.filterMap Tally.translations? = [] := by
  have names : station.renamed.2 = station.node.attached.zipIdx.map fun place =>
    Tally.register (interfaceName place.2) := rfl
  refine ⟨(SameAddresses.renamed station).2, ?_, ?_⟩
  · simp [names, Tally.routes?]
  · simp [names, Tally.translations?]

/-- The number of routes is told when a connected route is put in place, or found there. -/
theorem installRoute_told (net : Prefix family) :
    Told station (station.installRoute id net).1 (station.installRoute id net).2 :=
  .of_tally _

/-- What goes with an address is put in place and told. -/
theorem install_told (entry : InterfaceAddress family) :
    Told station (station.install id entry).1 (station.install id entry).2 := by
  have joined := (station.join_differs id (entry.address.companions entry.net?)).2
  unfold install
  dsimp only
  generalize (entry.address.companions entry.net?).foldl
    (fun station group => station.modify id (·.addAddress group)) station = after at joined ⊢
  cases entry.net? with
  | none => exact .of_table (by rw [joined]) rfl rfl
  | some net =>
    -- The groups come first, and they are no routes.
    have groups : Told station after [] := .of_table (by rw [joined]) rfl rfl
    exact groups.trans (after.installRoute_told id net)

/-- What goes with several addresses is put in place and told, one after the other. -/
theorem installs_told {before : Station family} {tallies : List Tally}
    (told : Told before station tallies) (entries : List (InterfaceAddress family)) :
    let result := entries.foldl (fun (station, tallies) entry =>
      let (station, more) := station.install id entry
      (station, tallies ++ more)) (station, tallies)
    Told before result.1 result.2 := by
  induction entries generalizing station tallies with
  | nil => exact told
  | cons entry rest ih => exact ih _ (told.trans (station.install_told id entry))

/-- An interface is attached with its routes, of which the gauge is told. -/
theorem attach_told : Told station (station.attach node id).1 (station.attach node id).2 := by
  let placed : Station family := { station.modify id (·.addListener (.node node)) with
    node := { station.node with attached := station.node.attached ++ [id] } }
  -- Names come before routes here, and say nothing to any gauge.
  obtain ⟨same, routes, translations⟩ := placed.renamed_silent
  have table : placed.renamed.1.node.table = station.node.table :=
    (congrArg Node.table same).trans rfl
  have named : Told station placed.renamed.1 placed.renamed.2 :=
    .of_table table routes translations
  exact installs_told _ id named _

/-- An interface is detached with its routes, of which the gauge is told. -/
theorem detach_told :
    Told station (station.detach node id).2.1 (station.detach node id).2.2 := by
  unfold detach
  split
  · obtain ⟨-, routes, translations⟩ := renamed_silent
      { station.modify id (·.removeListener (.node node)) with
        node := { station.node with
          attached := station.node.attached.erase id
          table := station.node.table.removeInterface id } }
    -- The number comes first, and the names behind it tell none.
    constructor
    · left
      exact congrArg (fun told => (_ :: told).getLast?) routes
    · exact translations
  · exact .of_table rfl rfl rfl

/-- An address is added with its route, of which the gauge is told. -/
theorem addAddress_told (entry : InterfaceAddress family) :
    Told station (station.addAddress id entry).1 (station.addAddress id entry).2 := by
  have placed : Told station (station.modify id (·.addAddress entry)) [] := .of_table rfl rfl rfl
  unfold addAddress
  dsimp only
  -- Only an address of an interface that is attached brings a route.
  split
  · exact placed.trans (install_told _ id entry)
  · exact placed

/-- A prefix is taken back with its route, of which the gauge is told. -/
theorem retract_told (net : Prefix family) :
    Told station (station.retract id net).1 (station.retract id net).2 := by
  unfold retract
  split
  · exact .of_table rfl rfl rfl
  · exact .of_tally _

/-- An address is removed, and the gauge is told of the route that goes with the last one on a prefix. -/
theorem removeAddress_told (address : Address family) :
    Told station (station.removeAddress id address).2.1 (station.removeAddress id address).2.2 := by
  unfold removeAddress
  split
  · exact .of_table rfl rfl rfl
  · rename_i entry found
    -- Leaving the group changes the links of the interface, not the table.
    have left := ((station.modify id (·.removeAddress address)).leaveGroup_differs id address).2
    have gone : Told station
        ((station.modify id (·.removeAddress address)).leaveGroup id address) [] :=
      .of_table (congrArg Node.table left) rfl rfl
    dsimp only
    -- Only the last address on a prefix takes the route with it.
    split
    · rename_i net own
      exact gone.trans (retract_told _ id net)
    · exact gone

/-- A node that is closed has no routes, and the gauge is told so. -/
theorem close_told : Told station (station.close node).1 (station.close node).2 :=
  .of_tally _

end Changes

end Station

end NetworkLayer
