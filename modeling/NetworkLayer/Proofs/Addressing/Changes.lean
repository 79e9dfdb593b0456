import NetworkLayer.Proofs.Assembly.Stations

/-!
What configuring a node does to its addresses and routes. Main statements: an address brings the groups and
the connected route that go with it, and a removal takes one entry away and, with the last one on a prefix,
the broadcast address and the connected route of the prefix.
-/

namespace NetworkLayer

variable {family : Family}

namespace InterfaceAddress

/-- The addresses with one more at the end, unless it is among them. -/
def joining (addresses : List (InterfaceAddress family)) (entry : InterfaceAddress family) :
    List (InterfaceAddress family) :=
  if addresses.contains entry then addresses else addresses ++ [entry]

variable (addresses entries : List (InterfaceAddress family))

/-- What joins stands behind what is there. -/
theorem prefix_joining (entry : InterfaceAddress family) :
    addresses <+: joining addresses entry := by
  rw [joining]
  split
  · exact List.prefix_refl _
  · exact List.prefix_append ..

/-- An address that joins is there, next to those that were. -/
theorem mem_joining {entry other : InterfaceAddress family} :
    other ∈ joining addresses entry ↔ other ∈ addresses ∨ other = entry := by
  rw [joining]
  -- An entry that is there already is not added again.
  split
  · rename_i listed
    have there := List.contains_iff_mem.mp listed
    exact ⟨Or.inl, fun among => among.elim id fun same => same ▸ there⟩
  · rw [List.mem_append, List.mem_singleton]

/-- No address is there twice. -/
theorem nodup_joining {entry : InterfaceAddress family} (distinct : addresses.Nodup) :
    (joining addresses entry).Nodup := by
  rw [joining]
  split
  · exact distinct
  · -- An address that joins was not among the others.
    rename_i missing
    have absent : entry ∉ addresses := fun there => missing (List.contains_iff_mem.mpr there)
    refine List.nodup_append.mpr ⟨distinct, List.pairwise_singleton .., fun other there last among => ?_⟩
    rw [List.mem_singleton.mp among]
    exact fun same => absent (same ▸ there)

/-- What joins one by one stands behind what is there. -/
theorem prefix_foldl_joining : addresses <+: entries.foldl joining addresses :=
  List.foldlRecOn (motive := fun after => addresses <+: after) entries joining
    (List.prefix_refl _) fun after kept entry _ => kept.trans (prefix_joining after entry)

/-- No address is there twice after some have joined. -/
theorem nodup_foldl_joining (distinct : addresses.Nodup) :
    (entries.foldl joining addresses).Nodup :=
  List.foldlRecOn (motive := List.Nodup) entries joining distinct
    fun after kept _ _ => nodup_joining after kept

/-- All addresses that join are there, next to those that were. -/
theorem mem_foldl_joining {other : InterfaceAddress family} :
    other ∈ entries.foldl joining addresses ↔ other ∈ addresses ∨ other ∈ entries := by
  induction entries generalizing addresses with
  | nil => simp
  | cons entry rest ih => rw [List.foldl_cons, ih, mem_joining, List.mem_cons, or_assoc]

end InterfaceAddress

/-- An interface gets an address by joining it to those that it has. -/
theorem Interface.addAddress_joining (interface : Interface family)
    (entry : InterfaceAddress family) : (interface.addAddress entry).addresses =
      InterfaceAddress.joining interface.addresses entry :=
  interface.addAddress_addresses entry

/-- The first entry for an address is the one that goes. -/
theorem InterfaceAddress.eraseP_eq_erase {addresses : List (InterfaceAddress family)}
    {address : Address family} {entry : InterfaceAddress family}
    (found : addresses.find? (·.address == address) = some entry) :
    addresses.eraseP (·.address == address) = addresses.erase entry := by
  obtain ⟨selected, front, back, split, others⟩ := List.find?_eq_some_iff_append.mp found
  have passed : ∀ other ∈ front, ¬ (other.address == address) = true := fun other member => by
    simpa using others other member
  -- No entry in front is for the address, so none of them is the one that goes.
  have foreign : entry ∉ front := fun member => passed entry member selected
  rw [split, List.eraseP_append_right _ passed, List.eraseP_cons_of_pos (by exact selected),
    List.erase_append_right _ foreign, List.erase_cons_head]

/-- An interface loses the first entry for an address. -/
theorem Interface.removeAddress_addresses (interface : Interface family) (address : Address family) :
    (interface.removeAddress address).addresses =
      interface.addresses.eraseP (·.address == address) := by
  rw [removeAddress, withResolver_addresses]

section At

variable {interfaces : Interfaces family} {id other : InterfaceId}
  {change : Interface family → Interface family}

/-- The interface that is changed. -/
theorem Interfaces.at_modify (present : id ∈ interfaces.keys) :
    Interfaces.at (interfaces.modify id change) id = change (interfaces.at id) := by
  obtain ⟨interface, there⟩ := Option.isSome_iff_exists.mp (Dictionary.mem_keys_iff.mp present)
  rw [Interfaces.at, Dictionary.get?_modify, if_pos (beq_self_eq_true id), Interfaces.at, there]
  rfl

/-- The other interfaces stay as they are. -/
theorem Interfaces.at_modify_of_ne (apart : other ≠ id) :
    Interfaces.at (interfaces.modify id change) other = interfaces.at other := by
  rw [Interfaces.at, Dictionary.get?_modify, if_neg (by simpa using apart), ← Interfaces.at]

end At

namespace Station

/-- Stations with the same interfaces attached, whose addresses differ at one of them at most. -/
structure DiffersAt (id : InterfaceId) (before after : Station family) : Prop where
  attached : after.node.attached = before.node.attached
  keys : after.interfaces.keys = before.interfaces.keys
  elsewhere : ∀ other, other ≠ id →
    (after.interfaces.at other).addresses = (before.interfaces.at other).addresses

namespace DiffersAt

variable {id : InterfaceId} {before between after : Station family}

/-- A station differs nowhere from itself. -/
theorem refl (station : Station family) : DiffersAt id station station :=
  ⟨rfl, rfl, fun _ _ => rfl⟩

/-- What differs at one interface twice differs there only. -/
theorem trans (early : DiffersAt id before between) (late : DiffersAt id between after) :
    DiffersAt id before after :=
  ⟨late.attached.trans early.attached, late.keys.trans early.keys,
    fun other apart => (late.elsewhere other apart).trans (early.elsewhere other apart)⟩

/-- A table of routes is no matter of an interface. -/
theorem withTable (differs : DiffersAt id before after) (table : RoutingTable family) :
    DiffersAt id before (after.withTable table) :=
  ⟨differs.attached, differs.keys, differs.elsewhere⟩

/-- A change of an interface is seen there only. -/
theorem modify (station : Station family) (change : Interface family → Interface family) :
    DiffersAt id station (station.modify id change) :=
  ⟨rfl, Dictionary.keys_modify, fun _ apart =>
    congrArg Interface.addresses (Interfaces.at_modify_of_ne apart)⟩

end DiffersAt

/-- A station whose routes are all connected ones, each there once. -/
structure OnlyConnected (station : Station family) : Prop where
  distinct : station.node.table.routes.Nodup
  connected : ∀ route ∈ station.node.table.routes, ∃ net, route = .connected net route.interface

/-- What comes with unicast addresses of an interface. -/
structure Brings (id : InterfaceId) (entries : List (InterfaceAddress family))
    (before after : Station family) : Prop where
  differs : DiffersAt id before after
  addresses : id ∈ before.interfaces.keys → (after.interfaces.at id).addresses =
    (entries.flatMap fun entry => entry.address.companions entry.net?).foldl
      InterfaceAddress.joining (before.interfaces.at id).addresses
  connected : before.OnlyConnected → after.OnlyConnected
  routes : before.OnlyConnected → ∀ route, route ∈ after.node.table.routes ↔
    route ∈ before.node.table.routes ∨ ∃ net ∈ entries.filterMap (·.net?), route = .connected net id

namespace Brings

variable {id : InterfaceId} {before between after : Station family}
  {entries more : List (InterfaceAddress family)}

/-- No addresses bring nothing. -/
theorem nil (station : Station family) : Brings id [] station station :=
  ⟨.refl _, fun _ => rfl, fun connected => connected, fun _ route => by simp⟩

/-- What some addresses and then others bring comes with all of them. -/
theorem trans (early : Brings id entries before between) (late : Brings id more between after) :
    Brings id (entries ++ more) before after := by
  refine ⟨early.differs.trans late.differs, fun present => ?_,
    fun connected => late.connected (early.connected connected), fun connected route => ?_⟩
  · rw [late.addresses (early.differs.keys ▸ present), early.addresses present, List.flatMap_append,
      List.foldl_append]
  · rw [late.routes (early.connected connected), early.routes connected, List.filterMap_append]
    simp only [List.mem_append, or_and_right, exists_or, or_assoc]

end Brings

section Install

variable (station : Station family) (id : InterfaceId)

/-- Groups that are joined come behind the addresses that are there. -/
theorem join_addresses (groups : List (InterfaceAddress family))
    (present : id ∈ station.interfaces.keys) :
    ((groups.foldl (fun station group => station.modify id (·.addAddress group))
      station).interfaces.at id).addresses =
      groups.foldl InterfaceAddress.joining (station.interfaces.at id).addresses := by
  -- The induction is on the groups, for any station, since each of them changes it.
  induction groups generalizing station with
  | nil => rfl
  | cons group rest ih =>
    have kept : id ∈ (station.modify id (·.addAddress group)).interfaces.keys :=
      (DiffersAt.modify station _).keys ▸ present
    have joined : ((station.modify id (·.addAddress group)).interfaces.at id).addresses =
        InterfaceAddress.joining (station.interfaces.at id).addresses group :=
      (congrArg Interface.addresses (Interfaces.at_modify present)).trans
        (Interface.addAddress_joining ..)
    rw [List.foldl_cons, List.foldl_cons, ih _ kept, joined]

/-- Groups that are joined change no route and nothing at the other interfaces. -/
theorem join_differs (groups : List (InterfaceAddress family)) :
    let after := groups.foldl (fun station group => station.modify id (·.addAddress group)) station
    DiffersAt id station after ∧ after.node = station.node :=
  List.foldlRecOn (motive := fun after => DiffersAt id station after ∧ after.node = station.node)
    groups _ ⟨.refl _, rfl⟩ fun _ kept _ _ => ⟨kept.1.trans (.modify ..), kept.2⟩

/-- The connected route of a prefix is put in place, if it is not there. -/
theorem installRoute_routes (connected : station.OnlyConnected) (net : Prefix family) :
    (station.installRoute id net).1.OnlyConnected ∧
      ∀ route, route ∈ (station.installRoute id net).1.node.table.routes ↔
        route ∈ station.node.table.routes ∨ route = .connected net id := by
  rw [installRoute]
  dsimp only
  split
  · -- A route to the prefix through the interface is the connected one.
    rename_i present
    obtain ⟨route, there, same⟩ := List.any_eq_true.mp present
    rw [Bool.and_eq_true, beq_iff_eq, beq_iff_eq] at same
    obtain ⟨own, shape⟩ := connected.connected route there
    have own : own = net := by
      rw [shape] at same
      exact Destination.net.inj same.1
    rw [own, same.2] at shape
    exact ⟨connected, fun other => ⟨Or.inl, fun among => among.elim (fun there => there)
      fun equal => equal ▸ shape ▸ there⟩⟩
  · rename_i missing
    -- A route that comes is new, and it is a connected one.
    have absent : Route.connected net id ∉ station.node.table.routes := fun there =>
      missing (List.any_eq_true.mpr ⟨_, there, by simp [Route.connected]⟩)
    refine ⟨⟨?_, fun route member => ?_⟩, fun route => by
      rw [withTable, RoutingTable.add, List.mem_append, List.mem_singleton]⟩
    · refine List.nodup_append.mpr
        ⟨connected.distinct, List.pairwise_singleton .., fun other there last among => ?_⟩
      rw [List.mem_singleton.mp among]
      exact fun same => absent (same ▸ there)
    · rw [withTable, RoutingTable.add, List.mem_append, List.mem_singleton] at member
      rcases member with there | rfl
      · exact connected.connected route there
      · exact ⟨net, rfl⟩

/-- Putting a route in place changes no interface. -/
theorem installRoute_same (net : Prefix family) :
    (station.installRoute id net).1.interfaces = station.interfaces ∧
      (station.installRoute id net).1.node.attached = station.node.attached := by
  rw [installRoute]
  dsimp only
  split
  · exact ⟨rfl, rfl⟩
  · exact ⟨rfl, rfl⟩

/-- An address that is installed brings its groups and its connected route. -/
theorem install_brings (entry : InterfaceAddress family) :
    Brings id [entry] station (station.install id entry).1 := by
  have joined := station.join_addresses id (entry.address.companions entry.net?)
  have differs := station.join_differs id (entry.address.companions entry.net?)
  rw [install]
  -- Joining the groups changes the interface only, so what is known of it is carried to the route.
  generalize (entry.address.companions entry.net?).foldl
    (fun station group => station.modify id (·.addAddress group)) station = after at joined differs ⊢
  obtain ⟨differs, node⟩ := differs
  have flat : ([entry].flatMap fun entry => entry.address.companions entry.net?) =
      entry.address.companions entry.net? := List.flatMap_singleton ..
  have same (connected : station.OnlyConnected) : after.OnlyConnected :=
    ⟨node ▸ connected.distinct, node ▸ connected.connected⟩
  -- The route is put in place behind the groups, if the address has a prefix at all.
  cases own : entry.net? with
  | none =>
    refine ⟨differs, fun present => ?_, same, fun _ route => ?_⟩
    · rw [flat]
      exact joined present
    · simp [own, node]
  | some net =>
    obtain ⟨interfaces, attached⟩ := after.installRoute_same id net
    refine ⟨⟨attached.trans differs.attached, ?_, fun other apart => ?_⟩, fun present => ?_,
      fun connected => (after.installRoute_routes id (same connected) net).1,
      fun connected route => ?_⟩
    · rw [interfaces, differs.keys]
    · rw [interfaces, differs.elsewhere other apart]
    · rw [interfaces, flat]
      exact joined present
    · rw [(after.installRoute_routes id (same connected) net).2, node]
      simp [own]

end Install

/-- Interfaces with the same addresses. -/
structure SameAddresses (before after : Interfaces family) : Prop where
  keys : after.keys = before.keys
  addresses : ∀ id, (after.at id).addresses = (before.at id).addresses

namespace SameAddresses

variable {before between after : Interfaces family}

/-- What keeps the addresses twice keeps them. -/
theorem trans (early : SameAddresses before between) (late : SameAddresses between after) :
    SameAddresses before after :=
  ⟨late.keys.trans early.keys, fun id => (late.addresses id).trans (early.addresses id)⟩

/-- A change of something else of an interface keeps the addresses. -/
theorem modify (interfaces : Interfaces family) (id : InterfaceId)
    (change : Interface family → Interface family)
    (keeps : ∀ interface, (change interface).addresses = interface.addresses) :
    SameAddresses interfaces (Dictionary.modify interfaces id change) := by
  refine ⟨Dictionary.keys_modify, fun other => ?_⟩
  -- Only the interface that is changed has another value, and that value keeps the addresses.
  rw [Interfaces.at, Interfaces.at, Dictionary.get?_modify]
  split
  · cases interfaces.get? other with
    | none => rfl
    | some interface => exact keeps interface
  · rfl

/-- Names are no addresses. -/
theorem renamed (station : Station family) :
    SameAddresses station.interfaces station.renamed.1.interfaces ∧
      station.renamed.1.node = station.node :=
  List.foldlRecOn (motive := fun after : Station family =>
      SameAddresses station.interfaces after.interfaces ∧ after.node = station.node)
    station.node.attached.zipIdx _ ⟨⟨rfl, fun _ => rfl⟩, rfl⟩
    fun after kept (id, index) _ => ⟨kept.1.trans (.modify after.interfaces id
      (fun interface => { interface with name := interfaceName index }) fun _ => rfl), kept.2⟩

end SameAddresses

section Attach

variable (station : Station family) (node : NodeId) (id : InterfaceId)

/-- Addresses that are installed one by one bring what goes with all of them. -/
theorem installs_bring (entries : List (InterfaceAddress family)) (tallies : List Tally) :
    Brings id entries station (entries.foldl (fun (station, tallies) entry =>
      let (station, more) := station.install id entry
      (station, tallies ++ more)) (station, tallies)).1 := by
  induction entries generalizing station tallies with
  | nil => exact .nil station
  | cons entry rest ih => exact (station.install_brings id entry).trans (ih _ _)

/-- An interface that is attached is attached last, and it brings what goes with its addresses. -/
theorem attach_brings : ∃ placed : Station family,
    SameAddresses station.interfaces placed.interfaces ∧
    placed.node.attached = station.node.attached ++ [id] ∧
    placed.node.table = station.node.table ∧
    Brings id ((station.interfaces.at id).addresses.filter (·.isUnicast)) placed
      (station.attach node id).1 := by
  let placed : Station family := ⟨{ station.node with attached := station.node.attached ++ [id] },
    station.interfaces.modify id (·.addListener (.node node))⟩
  have listens : SameAddresses station.interfaces placed.interfaces :=
    .modify _ id (·.addListener (.node node)) fun _ => rfl
  -- Listening and naming touch no address, so what is new is what the addresses bring.
  obtain ⟨named, same⟩ := SameAddresses.renamed placed
  exact ⟨placed.renamed.1, listens.trans named, congrArg Node.attached same,
    (congrArg Node.table same).trans rfl, placed.renamed.1.installs_bring id _ _⟩

variable {id}

/-- An interface that is detached takes its routes with it. -/
theorem detach_takes (attached : id ∈ station.node.attached) :
    let after := (station.detach node id).2.1
    SameAddresses station.interfaces after.interfaces ∧
      after.node.attached = station.node.attached.erase id ∧
      after.node.table.routes = station.node.table.routes.filter (!·.interface == id) := by
  let placed : Station family := ⟨{ station.node with
    attached := station.node.attached.erase id
    table := station.node.table.removeInterface id },
    station.interfaces.modify id (·.removeListener (.node node))⟩
  -- A listener and a name are no addresses, so the interfaces keep what they have.
  have quiet : SameAddresses station.interfaces placed.interfaces :=
    .modify _ id (·.removeListener (.node node)) fun _ => rfl
  obtain ⟨named, same⟩ := SameAddresses.renamed placed
  rw [detach, if_pos (List.contains_iff_mem.mpr attached)]
  exact ⟨quiet.trans named, congrArg Node.attached same,
    congrArg (fun node => node.table.routes) same⟩

/-- An interface that is not attached cannot be detached. -/
theorem detach_missing (missing : id ∉ station.node.attached) :
    (station.detach node id).2.1 = station := by
  rw [detach, if_neg fun attached => missing (List.contains_iff_mem.mp attached)]

end Attach

/-- An address of a station brings its groups and its connected route. -/
theorem addAddress_brings (station : Station family) (id : InterfaceId)
    {entry : InterfaceAddress family} (single : entry.isUnicast) :
    ∃ given : Station family, DiffersAt id station given ∧ given.node = station.node ∧
      (id ∈ station.interfaces.keys → (given.interfaces.at id).addresses =
        InterfaceAddress.joining (station.interfaces.at id).addresses entry) ∧
      Brings id [entry] given (station.addAddress id entry).1 := by
  rw [addAddress, if_pos single]
  exact ⟨_, .modify station _, rfl, fun present =>
    (congrArg Interface.addresses (Interfaces.at_modify present)).trans
      (Interface.addAddress_joining ..), install_brings ..⟩

/-- An interface that is given an address has it, and the groups that go with it, behind what it has. -/
theorem addAddress_addresses (station : Station family) {id : InterfaceId}
    (present : id ∈ station.interfaces.keys) {entry : InterfaceAddress family}
    (single : entry.isUnicast) : DiffersAt id station (station.addAddress id entry).1 ∧
      ((station.addAddress id entry).1.interfaces.at id).addresses =
        (entry :: entry.address.companions entry.net?).foldl InterfaceAddress.joining
          (station.interfaces.at id).addresses := by
  obtain ⟨given, differs, -, joined, brings⟩ := station.addAddress_brings id single
  refine ⟨differs.trans brings.differs, ?_⟩
  rw [brings.addresses (differs.keys ▸ present), joined present, List.flatMap_singleton, List.foldl_cons]

section Remove

/-- A solicited-node group is left at its interface only. -/
theorem leaveGroup_differs (station : Station family) (id : InterfaceId) (address : Address family) :
    DiffersAt id station (station.leaveGroup id address) ∧
      (station.leaveGroup id address).node = station.node := by
  -- Only IPv6 addresses have such a group.
  cases family with
  | v4 => exact ⟨.refl _, rfl⟩
  | v6 =>
    simp only [leaveGroup]
    split
    · exact ⟨.refl _, rfl⟩
    · exact ⟨.modify .., rfl⟩

/-- A directed broadcast address goes at its interface only. -/
theorem dropBroadcast_differs (station : Station family) (id : InterfaceId) (net : Prefix family) :
    DiffersAt id station (station.dropBroadcast id net) ∧
      (station.dropBroadcast id net).node = station.node := by
  -- Only IPv4 has directed broadcast addresses.
  cases family with
  | v4 =>
    simp only [dropBroadcast]
    split
    · exact ⟨.modify .., rfl⟩
    · exact ⟨.refl _, rfl⟩
  | v6 => exact ⟨.refl _, rfl⟩

/-- A prefix is taken back at its interface only, and no route comes with that. -/
theorem retract_differs (station : Station family) (id : InterfaceId) (net : Prefix family) :
    DiffersAt id station (station.retract id net).1 ∧
      (station.retract id net).1.node.table.routes ⊆ station.node.table.routes := by
  obtain ⟨differs, same⟩ := station.dropBroadcast_differs id net
  rw [retract]
  -- Another address on the prefix keeps the route and the broadcast address.
  split
  · exact ⟨.refl _, List.Subset.refl _⟩
  · dsimp only
    rw [same]
    exact ⟨differs.withTable _, List.filter_sublist.subset⟩

/-- A removal is seen at its interface only, and no route comes with it. -/
theorem removeAddress_takes (station : Station family) (id : InterfaceId) (address : Address family) :
    let after := (station.removeAddress id address).2.1
    DiffersAt id station after ∧ after.node.table.routes ⊆ station.node.table.routes := by
  obtain ⟨left, same⟩ := (station.modify id (·.removeAddress address)).leaveGroup_differs id address
  have removed := (DiffersAt.modify station (·.removeAddress address)).trans left
  rw [removeAddress]
  -- Without an entry for the address nothing is done.
  split
  · exact ⟨.refl _, List.Subset.refl _⟩
  · dsimp only
    -- What goes with a prefix goes after the entry, from a node that is still the same.
    generalize (station.modify id (·.removeAddress address)).leaveGroup id address = gone
      at same removed ⊢
    have kept : gone.node = station.node := same
    split
    · rename_i net _
      obtain ⟨differs, routes⟩ := gone.retract_differs id net
      exact ⟨removed.trans differs, kept ▸ routes⟩
    · exact ⟨removed, kept ▸ List.Subset.refl _⟩

/-- A removal is seen at its interface only. -/
theorem removeAddress_differs (station : Station family) (id : InterfaceId) (address : Address family) :
    DiffersAt id station (station.removeAddress id address).2.1 :=
  (station.removeAddress_takes id address).1

variable {station : Station .v4} {id : InterfaceId} {address : Address .v4}
  {entry : InterfaceAddress .v4}

variable (present : id ∈ station.interfaces.keys)
  (found : (station.interfaces.at id).addresses.find? (·.address == address) = some entry)
include present found

/-- The addresses that are left when one is removed. -/
theorem removed_addresses :
    ((station.modify id (·.removeAddress address)).interfaces.at id).addresses =
      (station.interfaces.at id).addresses.erase entry := by
  rw [← InterfaceAddress.eraseP_eq_erase found, ← Interface.removeAddress_addresses]
  exact congrArg Interface.addresses (Interfaces.at_modify present)

/-- A removal takes nothing but the entry while its prefix has another one. -/
theorem removeAddress_shared (shared : ∀ net, entry.net? = some net →
      ∃ other ∈ (station.interfaces.at id).addresses.erase entry, other.net? = some net) :
    ((station.removeAddress id address).2.1.interfaces.at id).addresses =
        (station.interfaces.at id).addresses.erase entry ∧
      (station.removeAddress id address).2.1.node = station.node := by
  have left := removed_addresses present found
  rw [removeAddress, found]
  simp only [leaveGroup]
  cases own : entry.net? with
  | none => exact ⟨left, rfl⟩
  | some net =>
    -- The other entry is found behind the removal, so the prefix is not given up.
    obtain ⟨other, there, same⟩ := shared net own
    have another : ((station.modify id (·.removeAddress address)).interfaces.at id).addresses.any
        (fun entry => entry.net? == some net) := by
      rw [left]
      exact List.any_eq_true.mpr ⟨other, there, beq_iff_eq.mpr same⟩
    simp only [retract, another, if_true]
    exact ⟨left, rfl⟩

/-- With the last address on a prefix its broadcast address and its connected route go. -/
theorem removeAddress_last {net : Prefix .v4} (own : entry.net? = some net)
    (last : ∀ other ∈ (station.interfaces.at id).addresses.erase entry, other.net? ≠ some net) :
    ((station.removeAddress id address).2.1.interfaces.at id).addresses =
        (if net.length < 32 then ((station.interfaces.at id).addresses.erase entry).eraseP
          (·.address == net.directedBroadcast)
        else (station.interfaces.at id).addresses.erase entry) ∧
      (station.removeAddress id address).2.1.node.table =
        station.node.table.without fun route => route.origin == .connected &&
          route.destination == .net net && route.interface == id := by
  have left := removed_addresses present found
  have alone : ¬ ((station.modify id (·.removeAddress address)).interfaces.at id).addresses.any
      (fun entry => entry.net? == some net) := by
    rw [left, List.any_eq_true]
    rintro ⟨other, there, same⟩
    exact last other there (beq_iff_eq.mp same)
  -- The entry is gone, so the interface that loses the broadcast address is the one after the removal.
  have kept : id ∈ (station.modify id (·.removeAddress address)).interfaces.keys :=
    (DiffersAt.modify station _).keys ▸ present
  rw [removeAddress, found]
  simp only [leaveGroup, own, retract, alone, dropBroadcast]
  by_cases short : net.length < 32
  · simp only [if_pos short]
    refine ⟨?_, rfl⟩
    rw [← left, ← Interface.removeAddress_addresses]
    exact congrArg Interface.addresses (Interfaces.at_modify kept)
  · simp only [if_neg short]
    exact ⟨left, rfl⟩

end Remove

/-- What is done to the interfaces and the addresses of a node. -/
inductive Change (family : Family)
  | attach (id : InterfaceId)
  | detach (id : InterfaceId)
  | give (id : InterfaceId) (entry : InterfaceAddress family)
  | take (id : InterfaceId) (address : Address family)

/-- The station after a change of its node, with what is counted of it. -/
def tallied (node : NodeId) (station : Station family) : Change family → Station family × List Tally
  | .attach id => station.attach node id
  | .detach id => (station.detach node id).2
  | .give id entry => station.addAddress id entry
  | .take id address => (station.removeAddress id address).2

/-- The station after a change of its node. -/
def changed (node : NodeId) (station : Station family) (change : Change family) : Station family :=
  (station.tallied node change).1

end Station

end NetworkLayer
