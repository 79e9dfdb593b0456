import NetworkLayer.Proofs.Addressing.Changes

/-!
The connected routes of a node of either family. Main statement: while interfaces come and go and addresses
are given and taken, the routes are those of the unicast addresses of attached interfaces, each there once.
-/

namespace NetworkLayer

variable {family : Family}

/-- What comes with an address is a group, and no prefix goes with it. -/
theorem Address.companions_bare {address : Address family} {net : Option (Prefix family)}
    {group : InterfaceAddress family} (member : group ∈ address.companions net) :
    group.isUnicast = false ∧ group.length = none := by
  -- Both families bring broadcast addresses and groups only.
  cases family with
  | v4 =>
    simp only [companions, List.mem_append, Option.mem_toList, Option.map_eq_some_iff,
      List.mem_cons, List.not_mem_nil, or_false] at member
    rcases member with ⟨_, _, rfl⟩ | rfl | rfl <;> exact ⟨rfl, rfl⟩
  | v6 =>
    simp only [companions, List.mem_cons, List.not_mem_nil, or_false] at member
    rcases member with rfl | rfl | rfl <;> exact ⟨rfl, rfl⟩

namespace Station

/-- The unicast addresses of an interface. -/
def unicastOn (station : Station family) (id : InterfaceId) : List (InterfaceAddress family) :=
  (station.interfaces.at id).addresses.filter (·.isUnicast)

/-- Whether a route is the one that goes with some address of an attached interface. -/
def Owed (station : Station family) (route : Route family) : Prop :=
  ∃ id ∈ station.node.attached, ∃ entry ∈ station.unicastOn id, ∃ net,
    entry.net? = some net ∧ route = .connected net id

/-- A station whose routes are those of the addresses of its attached interfaces. -/
structure Routed (station : Station family) : Prop where
  once : station.node.attached.Nodup
  known : ∀ id ∈ station.node.attached, id ∈ station.interfaces.keys
  connected : station.OnlyConnected
  owed : ∀ route, route ∈ station.node.table.routes ↔ station.Owed route

/-- The connected routes to a prefix through an interface. -/
def routesTo (station : Station family) (id : InterfaceId) (net : Prefix family) :
    List (Route family) :=
  station.node.table.routes.filter fun route =>
    route.origin == .connected && route.destination == .net net && route.interface == id

/-- A change that takes no unicast address but one entry for an address at an interface. -/
def TakesOnly (id : InterfaceId) (address : Address family) (before after : Station family) : Prop :=
  (∃ entry, entry.address = address ∧ after.unicastOn id = (before.unicastOn id).erase entry) ∧
    ∀ other, other ≠ id → after.unicastOn other = before.unicastOn other

/-- Connected routes that go with the addresses. -/
structure Connected (station : Station family) : Prop where
  /-- A prefix has one connected route if there is an address on it, and none otherwise. -/
  connected : ∀ id ∈ station.node.attached, ∀ net, (station.routesTo id net).length =
    if (station.unicastOn id).any (·.net? == some net) then 1 else 0
  /-- No route leads through an interface that is not attached. -/
  attached : ∀ route ∈ station.node.table.routes, route.interface ∈ station.node.attached

/-- Interfaces with the same addresses have the same unicast ones. -/
theorem unicastOn_of_same {before after : Station family} {id other : InterfaceId}
    (same : (after.interfaces.at other).addresses = (before.interfaces.at id).addresses) :
    after.unicastOn other = before.unicastOn id := by
  rw [unicastOn, same, unicastOn]

/-- No unicast address comes with an address. -/
theorem Brings.mem_unicastOn {id other : InterfaceId} {owed : List (InterfaceAddress family)}
    {before after : Station family} (brings : Brings id owed before after)
    (present : id ∈ before.interfaces.keys) {entry : InterfaceAddress family} :
    entry ∈ after.unicastOn other ↔ entry ∈ before.unicastOn other := by
  -- Away from the interface nothing changes, and at the interface only groups come.
  by_cases here : other = id
  · subst here
    simp only [unicastOn, List.mem_filter, brings.addresses present,
      InterfaceAddress.mem_foldl_joining]
    refine and_congr_left fun single => ⟨fun among => ?_, Or.inl⟩
    rcases among with there | group
    · exact there
    · obtain ⟨own, _, group⟩ := List.mem_flatMap.mp group
      rw [(Address.companions_bare group).1] at single
      cases single
  · rw [unicastOn_of_same (brings.differs.elsewhere other here)]

/-- The same routes are owed when addresses have brought what goes with them. -/
theorem Brings.owed {id : InterfaceId} {owed : List (InterfaceAddress family)}
    {before after : Station family} (brings : Brings id owed before after)
    (present : id ∈ before.interfaces.keys) (route : Route family) :
    after.Owed route ↔ before.Owed route := by
  simp only [Owed, brings.differs.attached, brings.mem_unicastOn present]

/-- A station is routed once the addresses of an attached interface have brought their routes. -/
theorem Brings.routed {id : InterfaceId} {owed : List (InterfaceAddress family)}
    {before after : Station family} (brings : Brings id owed before after)
    (once : before.node.attached.Nodup)
    (known : ∀ other ∈ before.node.attached, other ∈ before.interfaces.keys)
    (connected : before.OnlyConnected) (attached : id ∈ before.node.attached)
    (routes : ∀ route, (route ∈ before.node.table.routes ∨
      ∃ net ∈ owed.filterMap (·.net?), route = .connected net id) ↔ before.Owed route) :
    Routed after := by
  have same := brings.differs.attached
  refine ⟨same ▸ once, fun other among => ?_, brings.connected connected, fun route => ?_⟩
  · rw [brings.differs.keys]
    exact known other (same ▸ among)
  · -- The routes that come are those that were missing.
    rw [brings.routes connected, routes, brings.owed (known id attached)]

variable {station : Station family} {id : InterfaceId} (node : NodeId)

/-- A node without interfaces and routes has no route to owe. -/
theorem routed_of_empty (attached : station.node.attached = [])
    (table : station.node.table = .empty) : Routed station := by
  have none : station.node.table.routes = [] := congrArg RoutingTable.routes table
  refine ⟨by simp [attached], by simp [attached], ⟨by simp [none], by simp [none]⟩, fun route => ?_⟩
  simp [Owed, attached, none]

section Routed

variable (routed : Routed station)
include routed

/-- An interface that is attached brings the routes of its addresses. -/
theorem Routed.attach (present : id ∈ station.interfaces.keys)
    (missing : id ∉ station.node.attached) : Routed (station.attach node id).1 := by
  obtain ⟨placed, same, attached, table, brings⟩ := station.attach_brings node id
  have unicast (other : InterfaceId) : placed.unicastOn other = station.unicastOn other :=
    unicastOn_of_same (same.addresses other)
  refine brings.routed ?_ (fun other among => ?_) ⟨table ▸ routed.connected.distinct,
    table ▸ routed.connected.connected⟩ (by simp [attached]) fun route => ?_
  · -- The interface was not attached before, so it is there once.
    rw [attached, List.nodup_append]
    refine ⟨routed.once, List.pairwise_singleton .., fun other there last among => ?_⟩
    rw [List.mem_singleton.mp among]
    intro equal
    exact missing (equal ▸ there)
  · rw [attached, List.mem_append, List.mem_singleton] at among
    rw [same.keys]
    rcases among with before | rfl
    · exact routed.known other before
    · exact present
  · -- What is owed now was owed before, or it is owed by the addresses of the interface.
    rw [table, routed.owed]
    simp only [Owed, attached, unicast, List.mem_append, List.mem_singleton, or_and_right,
      exists_or, exists_eq_left, List.mem_filterMap]
    refine or_congr Iff.rfl ⟨?_, ?_⟩
    · rintro ⟨net, ⟨entry, there, own⟩, shape⟩
      exact ⟨entry, there, net, own, shape⟩
    · rintro ⟨entry, there, net, own, shape⟩
      exact ⟨net, ⟨entry, there, own⟩, shape⟩

/-- An interface that is detached takes its routes with it. -/
theorem Routed.detach : Routed (station.detach node id).2.1 := by
  by_cases attached : id ∈ station.node.attached
  case neg => rwa [station.detach_missing node attached]
  obtain ⟨same, left, routes⟩ := station.detach_takes node attached
  -- Detaching touches no address, so the other interfaces owe the same routes as before.
  have unicast (other : InterfaceId) :
      (station.detach node id).2.1.unicastOn other = station.unicastOn other :=
    unicastOn_of_same (same.addresses other)
  have among {other : InterfaceId} : other ∈ (station.detach node id).2.1.node.attached ↔
      other ≠ id ∧ other ∈ station.node.attached := by
    rw [left, routed.once.mem_erase_iff]
  refine ⟨left ▸ routed.once.erase id, fun other there => ?_, ⟨?_, fun route member => ?_⟩,
    fun route => ?_⟩
  · rw [same.keys]
    exact routed.known other (among.mp there).2
  · rw [routes]
    exact routed.connected.distinct.filter _
  · rw [routes] at member
    exact routed.connected.connected route (List.mem_filter.mp member).1
  · -- A route that is owed by another interface does not lead through this one.
    rw [routes, List.mem_filter, routed.owed]
    simp only [Owed, among, unicast]
    constructor
    · rintro ⟨⟨other, there, entry, member, net, own, rfl⟩, kept⟩
      refine ⟨other, ⟨fun gone => ?_, there⟩, entry, member, net, own, rfl⟩
      simp [gone, Route.connected] at kept
    · rintro ⟨other, ⟨apart, there⟩, entry, member, net, own, rfl⟩
      exact ⟨⟨other, there, entry, member, net, own, rfl⟩, by simpa [Route.connected]⟩

/-- An address that is given brings its route. -/
theorem Routed.give (attached : id ∈ station.node.attached) {entry : InterfaceAddress family}
    (single : entry.isUnicast = true) : Routed (station.addAddress id entry).1 := by
  obtain ⟨given, differs, same, joined, brings⟩ := station.addAddress_brings id single
  have present := routed.known id attached
  have unicast {other : InterfaceId} {listed : InterfaceAddress family} :
      listed ∈ given.unicastOn other ↔
        listed ∈ station.unicastOn other ∨ other = id ∧ listed = entry := by
    by_cases here : other = id
    · subst here
      simp only [unicastOn, List.mem_filter, joined present, InterfaceAddress.mem_joining]
      -- The new entry is a unicast one, so the filter lets it through.
      by_cases new : listed = entry <;> simp [new, single]
    · simp [here, unicastOn, differs.elsewhere other here]
  refine brings.routed (same ▸ routed.once) (fun other among => ?_) ⟨same ▸
    routed.connected.distinct, same ▸ routed.connected.connected⟩ (same ▸ attached) fun route => ?_
  · rw [differs.keys]
    exact routed.known other (same ▸ among)
  · -- Either an old entry owes the route, or it is the new one that does.
    rw [same, routed.owed]
    simp only [Owed, same, unicast, List.mem_filterMap, List.mem_singleton, exists_eq_left]
    constructor
    · rintro (⟨other, among, listed, there, rest⟩ | ⟨net, own, shape⟩)
      · exact ⟨other, among, listed, Or.inl there, rest⟩
      · exact ⟨id, attached, entry, Or.inr ⟨rfl, rfl⟩, net, own, shape⟩
    · rintro ⟨other, among, listed, there | ⟨rfl, rfl⟩, net, own, shape⟩
      · exact Or.inl ⟨other, among, listed, there, net, own, shape⟩
      · exact Or.inr ⟨net, own, shape⟩

/-- When the connected route to a prefix through an interface goes, all others stay. -/
theorem Routed.mem_without {net : Prefix family} {route : Route family} :
    route ∈ (station.node.table.without fun route => route.origin == .connected &&
        route.destination == .net net && route.interface == id).routes ↔
      route ∈ station.node.table.routes ∧ route ≠ .connected net id := by
  rw [RoutingTable.without, List.mem_filter]
  refine and_congr_right fun member => ?_
  -- Every route is a connected one, so the prefix and the interface tell them apart.
  obtain ⟨range, shape⟩ := routed.connected.connected route member
  have selected : (route.origin == .connected && route.destination == .net net &&
      route.interface == id) = true ↔ route = .connected net id := by
    rw [shape]
    simp [Route.connected]
  rw [Bool.not_eq_true', ← Bool.not_eq_true, selected]

/-- An address that is taken takes its route with it unless another one has the same prefix. -/
theorem Routed.take {after : Station family} (differs : DiffersAt id station after)
    (attached : id ∈ station.node.attached) {gone : InterfaceAddress family}
    (left : after.unicastOn id = (station.unicastOn id).erase gone)
    (fewer : after.node.table.routes.Sublist station.node.table.routes)
    (routes : ∀ route, route ∈ after.node.table.routes ↔ route ∈ station.node.table.routes ∧
      ¬ ∃ net, gone.net? = some net ∧ route = .connected net id ∧
        ∀ other ∈ after.unicastOn id, other.net? ≠ some net) : Routed after := by
  have elsewhere {other : InterfaceId} (apart : other ≠ id) :
      after.unicastOn other = station.unicastOn other :=
    unicastOn_of_same (differs.elsewhere other apart)
  refine ⟨differs.attached ▸ routed.once, fun other among => ?_,
    ⟨routed.connected.distinct.sublist fewer, fun route member =>
      routed.connected.connected route (fewer.subset member)⟩, fun route => ?_⟩
  · rw [differs.keys]
    exact routed.known other (differs.attached ▸ among)
  · rw [routes, routed.owed]
    simp only [Owed, differs.attached]
    constructor
    · rintro ⟨⟨other, among, entry, there, net, own, shape⟩, needed⟩
      by_cases here : other = id
      case neg => exact ⟨other, among, entry, elsewhere here ▸ there, net, own, shape⟩
      subst here
      by_cases first : entry = gone
      · -- The route stayed because another address is on the same prefix.
        have shared : ∃ another ∈ after.unicastOn other, another.net? = some net :=
          Classical.byContradiction fun alone => needed ⟨net, first ▸ own, shape,
            fun another stays on => alone ⟨another, stays, on⟩⟩
        obtain ⟨another, stays, on⟩ := shared
        exact ⟨other, among, another, stays, net, on, shape⟩
      · -- Another entry of the same prefix still owes its route.
        exact ⟨other, among, entry, left ▸ (List.mem_erase_of_ne first).mpr there, net, own, shape⟩
    · rintro ⟨other, among, entry, there, net, own, rfl⟩
      -- What is still owed was owed before, and it is not what went.
      by_cases here : other = id
      · subst here
        refine ⟨⟨other, among, entry, List.mem_of_mem_erase (left ▸ there), net, own, rfl⟩, ?_⟩
        rintro ⟨range, -, same, alone⟩
        obtain rfl : net = range := Destination.net.inj (congrArg Route.destination same)
        exact alone entry there own
      · refine ⟨⟨other, among, entry, elsewhere here ▸ there, net, own, rfl⟩, ?_⟩
        rintro ⟨_, _, same, _⟩
        exact here (congrArg Route.interface same)

/-- A prefix has one connected route if there is an address on it, and none otherwise. -/
theorem Routed.routesTo_length (attached : id ∈ station.node.attached) (net : Prefix family) :
    (station.routesTo id net).length =
      if (station.unicastOn id).any (·.net? == some net) then 1 else 0 := by
  -- Among connected routes, those to a prefix through an interface are equal.
  have counted : station.routesTo id net =
      station.node.table.routes.filter (· == .connected net id) := by
    refine List.filter_congr fun route member => ?_
    obtain ⟨range, shape⟩ := routed.connected.connected route member
    rw [shape, Bool.eq_iff_iff]
    simp [Route.connected]
  have due : .connected net id ∈ station.node.table.routes ↔
      (station.unicastOn id).any (·.net? == some net) = true := by
    rw [routed.owed, List.any_eq_true]
    constructor
    · rintro ⟨other, -, entry, there, range, own, same⟩
      obtain rfl : net = range := Destination.net.inj (congrArg Route.destination same)
      obtain rfl : id = other := congrArg Route.interface same
      exact ⟨entry, there, beq_iff_eq.mpr own⟩
    · rintro ⟨entry, there, on⟩
      exact ⟨id, attached, entry, there, net, beq_iff_eq.mp on, rfl⟩
  rw [counted, ← List.count_eq_length_filter, routed.connected.distinct.count]
  simp only [due]

/-- A station whose routes are those of its addresses has its routes in order. -/
theorem Routed.isConnected : station.Connected := by
  refine ⟨fun id attached net => routed.routesTo_length attached net, fun route member => ?_⟩
  -- A route that is there is owed by an attached interface.
  obtain ⟨id, attached, _, _, _, _, rfl⟩ := (routed.owed route).mp member
  exact attached

end Routed

end Station

end NetworkLayer
