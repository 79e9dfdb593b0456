import Mathlib.Data.Option.Basic
import NetworkLayer.Proofs.Addressing.Connected
import NetworkLayer.Proofs.Route.LongestMatch

/-!
The source addresses that a node takes for what it sends. Main statement: while interfaces and addresses come and
go and routes are added through attached interfaces, the source of a packet is a unicast address of the node,
except that a packet to a group gets whatever stands first on the first interface.
-/

namespace NetworkLayer

variable {family : Family}

namespace InterfaceAddress

variable {addresses entries : List (InterfaceAddress family)}

/-- No broadcast address and no group stands first. -/
def Leads (addresses : List (InterfaceAddress family)) : Prop :=
  ∀ first ∈ addresses.head?, first.isUnicast

/-- What joins addresses leaves the first one where it is. -/
theorem head?_foldl_joining (there : addresses ≠ []) :
    (entries.foldl joining addresses).head? = addresses.head? := by
  obtain ⟨rest, split⟩ := prefix_foldl_joining addresses entries
  rw [← split, List.head?_append, List.head?_eq_some_head there, Option.some_or]

/-- A unicast address and its groups may join addresses that lead, also where there are none. -/
theorem Leads.join {entry : InterfaceAddress family} (leads : Leads addresses)
    (single : entry.isUnicast) : Leads ((entry :: entries).foldl joining addresses) := by
  by_cases there : addresses = []
  · -- The unicast address is the first to join.
    rw [there, List.foldl_cons, Leads, head?_foldl_joining (by simp [joining])]
    simpa [joining] using single
  · rwa [Leads, head?_foldl_joining there]

/-- Groups join addresses only behind the unicast ones that they come with. -/
theorem Leads.bring (leads : Leads addresses) :
    Leads (((addresses.filter (·.isUnicast)).flatMap fun entry =>
      entry.address.companions entry.net?).foldl joining addresses) := by
  by_cases there : addresses = []
  · simpa [there] using leads
  · rwa [Leads, head?_foldl_joining there]

end InterfaceAddress

open InterfaceAddress (Leads)

namespace Station

section Routes

/-- A change after which every route was there before or leads through the interface. -/
def RoutesThrough (id : InterfaceId) (before after : Station family) : Prop :=
  ∀ route ∈ after.node.table.routes, route ∈ before.node.table.routes ∨ route.interface = id

/-- Routes through one interface that come in turn all lead through it. -/
theorem RoutesThrough.trans {id : InterfaceId} {before between after : Station family}
    (early : RoutesThrough id before between) (late : RoutesThrough id between after) :
    RoutesThrough id before after :=
  fun route there => (late route there).elim (early route) Or.inr

/-- A node that stays as it is gets no routes. -/
theorem RoutesThrough.of_node {id : InterfaceId} {before after : Station family}
    (same : after.node = before.node) : RoutesThrough id before after :=
  fun _ there => Or.inl (same ▸ there)

variable (station : Station family) (id : InterfaceId)

/-- The route of a prefix leads through its interface. -/
theorem installRoute_through (net : Prefix family) :
    RoutesThrough id station (station.installRoute id net).1 := by
  rw [installRoute]
  dsimp only
  -- If the route was there already, the table stays.
  split
  · exact .of_node rfl
  · intro route there
    rw [withTable, RoutingTable.add, List.mem_append, List.mem_singleton] at there
    exact there.imp_right (congrArg Route.interface)

/-- What an address brings leads through its interface. -/
theorem install_through (entry : InterfaceAddress family) :
    RoutesThrough id station (station.install id entry).1 := by
  obtain ⟨-, same⟩ := station.join_differs id (entry.address.companions entry.net?)
  rw [install]
  generalize (entry.address.companions entry.net?).foldl
    (fun station group => station.modify id (·.addAddress group)) station = joined at same ⊢
  -- A group brings no route, and a prefix brings one.
  cases entry.net? with
  | none => exact .of_node same
  | some net => exact (RoutesThrough.of_node same).trans (joined.installRoute_through id net)

/-- What several addresses bring leads through their interface. -/
theorem installs_through (entries : List (InterfaceAddress family)) (tallies : List Tally) :
    RoutesThrough id station (entries.foldl (fun (station, tallies) entry =>
      let (station, more) := station.install id entry
      (station, tallies ++ more)) (station, tallies)).1 := by
  induction entries generalizing station tallies with
  | nil => exact .of_node rfl
  | cons entry rest ih => exact (station.install_through id entry).trans (ih _ _)

/-- An interface that is attached brings routes of its own only. -/
theorem attach_through (node : NodeId) : RoutesThrough id station (station.attach node id).1 := by
  let placed : Station family := ⟨{ station.node with attached := station.node.attached ++ [id] },
    station.interfaces.modify id (·.addListener (.node node))⟩
  have table : placed.renamed.1.node.table = station.node.table :=
    congrArg Node.table (SameAddresses.renamed placed).2 |>.trans rfl
  -- Attaching and naming leave the table, so a route is an old one or one that was brought.
  have brought : RoutesThrough id placed.renamed.1 (station.attach node id).1 :=
    placed.renamed.1.installs_through id _ _
  exact fun route there => (brought route there).imp_left fun known => table ▸ known

/-- An address that is given brings routes through its interface only. -/
theorem addAddress_through (entry : InterfaceAddress family) :
    RoutesThrough id station (station.addAddress id entry).1 := by
  rw [addAddress]
  split
  · exact (station.modify id (·.addAddress entry)).install_through id entry
  · exact .of_node rfl

end Routes

/-- What is done to the interfaces, the addresses and the routes of a node. -/
inductive Upkeep (family : Family)
  | change (change : Change family)
  /-- A route comes in front of the one at an index, or at the end. -/
  | insert (index : Nat) (route : Route family)
  /-- A route comes in place of all to its destination. -/
  | set (route : Route family)
  /-- A route comes that leads out the same way as its next hop. -/
  | via (destination : Destination family) (nextHop : Address family)

/-- The station after some upkeep of its node. -/
def upkept (node : NodeId) (station : Station family) : Upkeep family → Station family
  | .change change => station.changed node change
  | .insert index route => station.withTable (station.node.table.insert index route)
  | .set route => station.withTable (station.node.table.set route)
  | .via destination nextHop =>
    -- Where nothing leads to the next hop, the table stays as it is.
    match station.node.table.addVia destination nextHop with
    | .ok table => station.withTable table
    | .error _ => station

/-- Whether upkeep is in order: interfaces that exist are attached, attached ones are given unicast addresses
and lose any, and routes lead through attached ones. -/
def Fits (station : Station family) : Upkeep family → Prop
  | .change (.attach id) => id ∈ station.interfaces.keys
  | .change (.give id entry) => id ∈ station.node.attached ∧ entry.isUnicast
  | .change (.take id _) => id ∈ station.node.attached
  | .insert _ route | .set route => route.interface ∈ station.node.attached
  | .change (.detach _) | .via .. => True

/-- The stations that upkeep of a new node leads to, with a further condition on each step. -/
inductive Maintained (careful : Station family → Upkeep family → Prop) (node : NodeId) :
    Station family → Prop
  | new {station : Station family} (attached : station.node.attached = [])
      (table : station.node.table = .empty) : Maintained careful node station
  | step {station : Station family} (before : Maintained careful node station) (upkeep : Upkeep family)
      (fits : station.Fits upkeep) (care : careful station upkeep) :
      Maintained careful node (station.upkept node upkeep)

/-- What all upkeep keeps: attached interfaces exist, and every route leads through one of them. -/
structure Anchored (station : Station family) : Prop where
  known : ∀ id ∈ station.node.attached, id ∈ station.interfaces.keys
  routed : ∀ route ∈ station.node.table.routes, route.interface ∈ station.node.attached

section Anchored

variable {station : Station family} {id : InterfaceId}

/-- A change at an interface with routes through it. -/
theorem Anchored.change {after : Station family} (anchored : station.Anchored)
    (differs : DiffersAt id station after) (through : RoutesThrough id station after)
    (attached : id ∈ station.node.attached) : after.Anchored := by
  refine ⟨fun other among => differs.keys ▸ anchored.known other (differs.attached ▸ among),
    fun route there => differs.attached ▸ ?_⟩
  rcases through route there with known | here
  · exact anchored.routed route known
  · exact here ▸ attached

/-- A table with routes that are known or lead through attached interfaces. -/
theorem Anchored.withTable {table : RoutingTable family} (anchored : station.Anchored)
    (routes : ∀ route ∈ table.routes,
      route ∈ station.node.table.routes ∨ route.interface ∈ station.node.attached) :
    (station.withTable table).Anchored :=
  ⟨anchored.known, fun route there => (routes route there).elim (anchored.routed route) id⟩

/-- A change of the interfaces and addresses leaves a node anchored. -/
theorem Anchored.changed (anchored : station.Anchored) (node : NodeId) {change : Change family}
    (fits : station.Fits (.change change)) : (station.changed node change).Anchored := by
  -- Only an interface that comes adds to those that have to exist, and only addresses add routes.
  cases change with
  | attach id =>
    obtain ⟨placed, same, attached, table, brings⟩ := station.attach_brings node id
    have later : (station.attach node id).1.node.attached = station.node.attached ++ [id] :=
      brings.differs.attached.trans attached
    refine ⟨fun other among => ?_, fun route there => ?_⟩
    · show other ∈ (station.attach node id).1.interfaces.keys
      rw [brings.differs.keys, same.keys]
      rcases List.mem_append.mp (later ▸ among) with before | last
      · exact anchored.known other before
      · exact List.mem_singleton.mp last ▸ fits
    · -- A route that comes leads through the interface, which is attached last.
      show route.interface ∈ (station.attach node id).1.node.attached
      rw [later, List.mem_append, List.mem_singleton]
      exact (station.attach_through id node route there).imp_left (anchored.routed route)
  | detach id =>
    by_cases attached : id ∈ station.node.attached
    case neg =>
      rw [Station.changed, tallied, station.detach_missing node attached]
      exact anchored
    obtain ⟨same, left, routes⟩ := station.detach_takes node attached
    refine ⟨fun other among => same.keys ▸ ?_, fun route there => ?_⟩
    · exact anchored.known other (List.mem_of_mem_erase (left ▸ among))
    · -- The routes that stay lead through other interfaces.
      obtain ⟨known, elsewhere⟩ := List.mem_filter.mp (routes ▸ there)
      refine left ▸ (List.mem_erase_of_ne ?_).mpr (anchored.routed route known)
      simpa using elsewhere
  | give id entry =>
    exact anchored.change (station.addAddress_addresses (anchored.known id fits.1) fits.2).1
      (station.addAddress_through id entry) fits.1
  | take id address =>
    obtain ⟨differs, routes⟩ := station.removeAddress_takes id address
    exact anchored.change differs (fun route there => Or.inl (routes there)) fits

/-- What is maintained is anchored after every step. -/
theorem Anchored.step (anchored : station.Anchored) (node : NodeId) {upkeep : Upkeep family}
    (fits : station.Fits upkeep) : (station.upkept node upkeep).Anchored := by
  cases upkeep with
  | change change => exact anchored.changed node fits
  -- What else is done comes to a new table, so only the routes in it matter.
  | insert index route =>
    refine anchored.withTable fun other there => ?_
    rcases (List.mem_insertIdx (Nat.min_le_right ..)).mp there with new | known
    · exact Or.inr (new ▸ fits)
    · exact Or.inl known
  | set route =>
    refine anchored.withTable fun other there => ?_
    rcases List.mem_append.mp there with kept | last
    · exact Or.inl (List.mem_of_mem_filter kept)
    · exact Or.inr (List.mem_singleton.mp last ▸ fits)
  | via destination nextHop =>
    simp only [upkept, RoutingTable.addVia]
    cases found : station.node.table.routeFor nextHop with
    | none => exact anchored
    | some way =>
      refine anchored.withTable fun other there => ?_
      rcases List.mem_append.mp there with known | last
      · exact Or.inl known
      · exact Or.inr (List.mem_singleton.mp last ▸
          anchored.routed way (RoutingTable.routeFor_eq_some_iff.mp found).mem)

end Anchored

/-- Upkeep keeps a node anchored. -/
theorem Maintained.anchored {careful : Station family → Upkeep family → Prop} {node : NodeId}
    {station : Station family} (maintained : Maintained careful node station) : station.Anchored := by
  induction maintained with
  | new attached table => exact ⟨by simp [attached], by simp [table, RoutingTable.empty]⟩
  | step _ upkeep fits _ ih => exact ih.step node fits

section Sources

variable {station : Station family} {destination source : Address family}

/-- A unicast address of an attached interface belongs to the node. -/
theorem ownsUnicast_of_mem {id : InterfaceId} {entry : InterfaceAddress family}
    (attached : id ∈ station.node.attached) (there : entry ∈ (station.interfaces.at id).addresses)
    (single : entry.isUnicast) : station.ownsUnicast entry.address := by
  rw [ownsUnicast, Bool.or_eq_true, List.any_eq_true]
  exact Or.inr ⟨_, List.mem_map_of_mem attached,
    List.any_eq_true.mpr ⟨entry, there, by simp [single]⟩⟩

/-- The loopback address belongs to every node. -/
theorem ownsUnicast_loopback : station.ownsUnicast (.loopback family) := by
  have inside : (Prefix.loopback family).contains (.loopback family) := by cases family <;> decide
  rw [ownsUnicast, inside, Bool.true_or]

/-- The source on a route through an attached interface is a unicast address of the node. -/
theorem ownsUnicast_of_sourceOn? {route : Route family} (attached : route.interface ∈ station.node.attached)
    (found : station.sourceOn? route destination = some source) : station.ownsUnicast source := by
  obtain ⟨entry, chosen, rfl⟩ := Option.map_eq_some_iff.mp found
  -- Near or first, the entry is among the unicast ones.
  have single : entry ∈ station.unicastOn route.interface := by
    rcases (Option.orElse_eq_some ..).mp chosen with near | ⟨-, first⟩
    · exact List.mem_of_find?_eq_some near
    · exact List.mem_of_head? first
  obtain ⟨there, unicast⟩ := List.mem_filter.mp single
  exact ownsUnicast_of_mem attached there unicast

/-- No group is within the loopback prefix. -/
theorem not_loopback_of_isMulticast (group : destination.isMulticast) :
    ¬ (Prefix.loopback family).contains destination := by
  intro inside
  rw [Prefix.contains_eq, beq_iff_eq] at inside
  -- The first bits tell the two ranges apart.
  cases family with
  | v4 =>
    have low : destination.number - destination.number % 16777216 = 127 * 16777216 := inside
    have high : destination.number / 268435456 = 14 := by
      simpa [Address.isMulticast, Nat.shiftRight_eq_div_pow] using group
    omega
  | v6 =>
    have low : destination.number - destination.number % 1 = 1 := inside
    have high : destination.number >>> 120 = 255 := by simpa [Address.isMulticast] using group
    rw [Nat.mod_one, Nat.sub_zero] at low
    rw [low] at high
    exact absurd high (by decide)

/-- A packet to a group starts from whatever address stands first. -/
theorem sourceFor_group (group : destination.isMulticast) :
    station.sourceFor? destination = station.firstAddress? := by
  rw [sourceFor?, if_neg (not_loopback_of_isMulticast group), if_pos group]

/-- A packet to a single station starts from a unicast address of the node. -/
theorem sourceFor_owned (anchored : station.Anchored) (single : ¬ destination.isMulticast)
    (found : station.sourceFor? destination = some source) : station.ownsUnicast source := by
  rw [sourceFor?, if_neg single] at found
  -- The destination is on this node, or the route to it has a source of its own.
  split at found
  · exact Option.some_inj.mp found ▸ ownsUnicast_loopback
  · obtain ⟨route, selected, chosen⟩ := Option.bind_eq_some_iff.mp found
    have listed := (RoutingTable.routeFor_eq_some_iff.mp selected).mem
    exact ownsUnicast_of_sourceOn? (anchored.routed route listed) chosen

/-- What is maintained sends from unicast addresses of its own, but for what stands first on the first interface
when the destination is a group. -/
theorem sourceFor_owned_iff {careful : Station family → Upkeep family → Prop} {node : NodeId}
    (maintained : Maintained careful node station) (destination : Address family) :
    (∀ source, station.sourceFor? destination = some source → station.ownsUnicast source) ↔
      (destination.isMulticast → ∀ first, station.firstAddress? = some first →
        station.ownsUnicast first) := by
  by_cases group : destination.isMulticast
  · rw [sourceFor_group group]
    exact ⟨fun owned _ => owned, fun owned => owned group⟩
  · exact iff_of_true (fun source => sourceFor_owned maintained.anchored group)
      fun multicast => absurd multicast group

end Sources

section Careful

/-- No broadcast address and no group stands first on an attached interface. -/
def Fronted (station : Station family) : Prop :=
  ∀ id ∈ station.node.attached, Leads (station.interfaces.at id).addresses

/-- Upkeep that lets no broadcast address and no group come to stand first on an interface. -/
def Careful (station : Station family) : Upkeep family → Prop
  | .change (.attach id) => Leads (station.interfaces.at id).addresses
  | .change (.take id address) => Leads ((station.removeAddress id address).2.1.interfaces.at id).addresses
  | _ => True

variable {station : Station family} {id : InterfaceId} {node : NodeId}

/-- A change at one interface matters there only. -/
theorem Fronted.change {after : Station family} (fronted : station.Fronted)
    (differs : DiffersAt id station after) (here : Leads (after.interfaces.at id).addresses) :
    after.Fronted := by
  intro other among
  by_cases same : other = id
  · exact same ▸ here
  · exact differs.elsewhere other same ▸ fronted other (differs.attached ▸ among)

/-- A careful change leaves a unicast address first on each interface that has addresses. -/
theorem Fronted.changed (fronted : station.Fronted) (anchored : station.Anchored) {change : Change family}
    (fits : station.Fits (.change change)) (care : station.Careful (.change change)) :
    (station.changed node change).Fronted := by
  -- What is attached or taken is fronted by the condition on the change, and what is given by the rules of
  -- joining.
  cases change with
  | attach id =>
    obtain ⟨placed, same, attached, -, brings⟩ := station.attach_brings node id
    have listed : placed.Fronted := fun other among => by
      rw [same.addresses]
      rcases List.mem_append.mp (attached ▸ among) with before | last
      · exact fronted other before
      · exact List.mem_singleton.mp last ▸ care
    refine listed.change brings.differs ?_
    have brought := brings.addresses (same.keys ▸ fits)
    rw [same.addresses] at brought
    exact brought ▸ Leads.bring care
  | detach id =>
    by_cases attached : id ∈ station.node.attached
    case neg =>
      rw [Station.changed, tallied, station.detach_missing node attached]
      exact fronted
    obtain ⟨same, left, -⟩ := station.detach_takes node attached
    exact fun other among =>
      same.addresses other ▸ fronted other (List.mem_of_mem_erase (left ▸ among))
  | give id entry =>
    obtain ⟨differs, addresses⟩ := station.addAddress_addresses (anchored.known id fits.1) fits.2
    exact fronted.change differs (addresses ▸ (fronted id fits.1).join fits.2)
  | take id address => exact fronted.change (station.removeAddress_differs id address) care

/-- Careful upkeep leaves a unicast address first on each interface that has addresses. -/
theorem Fronted.step (fronted : station.Fronted) (anchored : station.Anchored) {upkeep : Upkeep family}
    (fits : station.Fits upkeep) (care : station.Careful upkeep) :
    (station.upkept node upkeep).Fronted := by
  cases upkeep with
  | change change => exact fronted.changed anchored fits care
  -- Routes are no matter of the addresses.
  | insert index route => exact fronted
  | set route => exact fronted
  | via destination nextHop =>
    rw [upkept]
    split <;> exact fronted

/-- Upkeep that is careful all along leaves a unicast address first everywhere. -/
theorem Maintained.fronted (maintained : Maintained Careful node station) : station.Fronted := by
  induction maintained with
  | new attached _ => simp [Fronted, attached]
  | step before upkeep fits care ih => exact ih.step before.anchored fits care

/-- A node that is maintained with care sends from unicast addresses of its own, to groups as well. -/
theorem sourceFor_owned_of_careful (maintained : Maintained Careful node station)
    {destination source : Address family} (found : station.sourceFor? destination = some source) :
    station.ownsUnicast source := by
  -- A packet to one station starts from a unicast address anyway.
  by_cases group : destination.isMulticast
  case neg => exact sourceFor_owned maintained.anchored group found
  rw [sourceFor_group group] at found
  obtain ⟨interface, leading, entry, head, rfl⟩ :
      ∃ interface, station.attached.head? = some interface ∧
        ∃ entry, interface.addresses.head? = some entry ∧ entry.address = source := by
    simpa [firstAddress?, Option.bind_eq_some_iff] using found
  obtain ⟨id, attached, rfl⟩ := List.mem_map.mp (List.mem_of_head? leading)
  exact ownsUnicast_of_mem attached (List.mem_of_head? head) (maintained.fronted id attached entry head)

end Careful

/-- A node beside an interface without addresses. -/
def unnumbered : Station .v4 where
  node := .create {} 0
  interfaces := ⟨[(0, .loopback), (1, .onLink 0 none)]⟩

/-- The interface is attached and gets `10.0.0.1/24`, loses it, and gets `10.0.0.2/24`. -/
def renumbered : Station .v4 :=
  [.attach 1, .give 1 (.unicast (.ofNat 0x0A000001) 24), .take 1 (.ofNat 0x0A000001),
    .give 1 (.unicast (.ofNat 0x0A000002) 24)].foldl (changed 0) unnumbered

/-- All of that is in order. -/
theorem renumbered_maintained : Maintained (fun _ _ => True) 0 renumbered := by
  -- Each step finds the interface attached, and the removal asks no more than that.
  have present : 1 ∈ unnumbered.interfaces.keys := by decide
  have listed : Maintained (fun _ _ => True) 0 (unnumbered.changed 0 (.attach 1)) :=
    .step (.new rfl rfl) (.change (.attach 1)) present trivial
  have first := Maintained.step listed (.change (.give 1 (.unicast (.ofNat 0x0A000001) 24)))
    ⟨by decide +kernel, rfl⟩ trivial
  have attached : 1 ∈ ((unnumbered.changed 0 (.attach 1)).changed 0
      (.give 1 (.unicast (.ofNat 0x0A000001) 24))).node.attached := by decide +kernel
  have gone := Maintained.step first (.change (.take 1 (.ofNat 0x0A000001))) attached trivial
  exact .step gone (.change (.give 1 (.unicast (.ofNat 0x0A000002) 24)))
    ⟨by decide +kernel, rfl⟩ trivial

/-- The new address is the source for the neighbour `10.0.0.7`. -/
theorem renumbered_source_owned : Maintained (fun _ _ => True) 0 renumbered ∧
    renumbered.sourceFor? (.ofNat 0x0A000007) = some (.ofNat 0x0A000002) ∧
    renumbered.ownsUnicast (.ofNat 0x0A000002) := by
  have source : renumbered.sourceFor? (.ofNat 0x0A000007) = some (.ofNat 0x0A000002) := by
    decide +kernel
  exact ⟨renumbered_maintained, source,
    (sourceFor_owned_iff renumbered_maintained (.ofNat 0x0A000007)).mpr
      (fun group => absurd group (by decide)) _ source⟩

/-- The broadcast address that the old one brought is the source for the group `224.0.0.9`. -/
theorem renumbered_source_broadcast : Maintained (fun _ _ => True) 0 renumbered ∧
    renumbered.sourceFor? (.ofNat 0xE0000009) = some .limitedBroadcast ∧
    ¬ renumbered.ownsUnicast .limitedBroadcast :=
  ⟨renumbered_maintained, by decide +kernel, by decide +kernel⟩

end Station

end NetworkLayer
