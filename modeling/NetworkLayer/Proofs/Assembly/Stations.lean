import NetworkLayer.Node.Configuration
import NetworkLayer.Proofs.Dictionary
import NetworkLayer.Proofs.Route

/-!
What a station has once an interface is attached to it and given its addresses: a route to each on-link
prefix, the routes and the addresses that it had before, and nothing else to lead to.
-/

namespace NetworkLayer

variable {family : Family}

namespace Interface

variable (interface : Interface family) (entry : InterfaceAddress family)

/-- What changes the resolver changes no address of the interface. -/
@[simp] theorem withResolver_addresses (change : Resolver family → Resolver family) :
    (interface.withResolver change).addresses = interface.addresses := by
  rw [withResolver, withAdapter]
  split <;> rfl

/-- An interface has the address that it gets, once. -/
theorem addAddress_addresses : (interface.addAddress entry).addresses =
    if interface.addresses.contains entry then interface.addresses
    else interface.addresses ++ [entry] := by
  rw [addAddress, withResolver_addresses]
  split
  · rw [withResolver_addresses]
  · rfl

/-- An interface that gets an address keeps those that it has. -/
theorem addresses_subset_addAddress :
    interface.addresses ⊆ (interface.addAddress entry).addresses := by
  rw [addAddress_addresses]
  split
  · exact List.Subset.refl _
  · exact List.subset_append_left _ _

/-- An interface has the address that it gets. -/
theorem mem_addAddress : entry ∈ (interface.addAddress entry).addresses := by
  rw [addAddress_addresses]
  split
  · rename_i listed
    exact List.contains_iff_mem.mp listed
  · exact List.mem_append_right _ List.mem_cons_self

end Interface

/-- Interfaces that keep their addresses, and may get more. -/
def Interfaces.Grow (before after : Interfaces family) : Prop :=
  ∀ id interface, before.get? id = some interface →
    ∃ later, after.get? id = some later ∧ interface.addresses ⊆ later.addresses

namespace Interfaces.Grow

/-- Interfaces that stay as they are keep their addresses. -/
theorem refl (interfaces : Interfaces family) : Grow interfaces interfaces :=
  fun _ interface there => ⟨interface, there, List.Subset.refl _⟩

/-- What one change and then another keeps is kept by both. -/
theorem trans {before between after : Interfaces family} (early : Grow before between)
    (late : Grow between after) : Grow before after := by
  intro id interface there
  obtain ⟨next, found, kept⟩ := early id interface there
  obtain ⟨last, ends, held⟩ := late id next found
  exact ⟨last, ends, List.Subset.trans kept held⟩

/-- A change that keeps the addresses of one interface keeps those of all. -/
theorem modify {change : Interface family → Interface family}
    (keeps : ∀ interface, interface.addresses ⊆ (change interface).addresses)
    (interfaces : Interfaces family) (id : InterfaceId) :
    Grow interfaces (Dictionary.modify interfaces id change) := by
  intro other interface there
  rw [Dictionary.get?_modify, there]
  split
  · exact ⟨change interface, rfl, keeps interface⟩
  · exact ⟨interface, rfl, List.Subset.refl _⟩

end Interfaces.Grow

/-- The network that an address has on its link. -/
def InterfaceAddress.onLink? (entry : InterfaceAddress family) : Option (Destination family) :=
  entry.net?.map .net

namespace Station

variable {station : Station family} {id : InterfaceId} {destination : Destination family}

/-- The station has a route to a destination. -/
def LeadsTo (station : Station family) (destination : Destination family) : Prop :=
  ∃ route ∈ station.node.table.routes, route.destination = destination

/-- The station has an interface with an address of its own. -/
def Lives (station : Station family) (id : InterfaceId) : Prop :=
  ∃ interface, station.interfaces.get? id = some interface ∧
    ∃ entry ∈ interface.addresses, entry.isUnicast

/-- There is a route for exactly the addresses that a destination covers which the station leads to. -/
theorem routeFor_isSome_iff {address : Address family} : (station.routeFor address).isSome ↔
    ∃ destination, station.LeadsTo destination ∧ destination.covers address := by
  rw [routeFor, RoutingTable.routeFor_isSome_iff]
  constructor
  · rintro ⟨route, there, covers⟩
    exact ⟨_, ⟨route, there, rfl⟩, covers⟩
  · rintro ⟨_, ⟨route, there, rfl⟩, covers⟩
    exact ⟨route, there, covers⟩

/-- An interface keeps its own address where interfaces keep theirs. -/
theorem Lives.grow {after : Station family} (lives : station.Lives id)
    (grow : station.interfaces.Grow after.interfaces) : after.Lives id := by
  obtain ⟨interface, there, entry, listed, single⟩ := lives
  obtain ⟨later, found, kept⟩ := grow id interface there
  exact ⟨later, found, entry, kept listed, single⟩

/-- A station that leads to what it has led to, to some more destinations and nowhere else, with
interfaces that keep their addresses. -/
structure Extends (before after : Station family) (more : List (Destination family)) : Prop where
  leads : ∀ destination,
    after.LeadsTo destination ↔ before.LeadsTo destination ∨ destination ∈ more
  grow : before.interfaces.Grow after.interfaces

/-- A station with the same table leads nowhere else. -/
theorem Extends.of_table {after : Station family} (table : after.node.table = station.node.table)
    (grow : station.interfaces.Grow after.interfaces) : Extends station after [] := by
  refine ⟨fun destination => ?_, grow⟩
  rw [LeadsTo, table, ← LeadsTo]
  simp

/-- What comes first and what comes then is led to in the end. -/
theorem Extends.trans {between after : Station family} {first further : List (Destination family)}
    (early : Extends station between first) (late : Extends between after further) :
    Extends station after (first ++ further) := by
  refine ⟨fun destination => ?_, early.grow.trans late.grow⟩
  -- What the later change adds stands behind what the earlier one did.
  rw [late.leads, early.leads, List.mem_append, or_assoc]

/-- A change of an interface that keeps its addresses leads nowhere else. -/
theorem extends_modify {change : Interface family → Interface family}
    (keeps : ∀ interface, interface.addresses ⊆ (change interface).addresses) :
    Extends station (station.modify id change) [] :=
  .of_table rfl (.modify keeps _ _)

/-- Changes of interfaces that keep their addresses lead nowhere else. -/
theorem extends_foldl {α : Type} (items : List α) (own : α → InterfaceId)
    (change : α → Interface family → Interface family)
    (keeps : ∀ item interface, interface.addresses ⊆ (change item interface).addresses)
    (station : Station family) :
    Extends station
      (items.foldl (fun station item => station.modify (own item) (change item)) station) [] :=
  List.foldlRecOn (motive := fun after => Extends station after []) items _
    (.of_table rfl (.refl _))
    fun _ kept item _ => kept.trans (extends_modify (keeps item))

/-- Names lead nowhere. -/
theorem extends_renamed (station : Station family) : Extends station station.renamed.1 [] :=
  extends_foldl station.node.attached.zipIdx Prod.fst
    (fun place interface => { interface with name := interfaceName place.2 })
    (fun _ _ => List.Subset.refl _) station

/-- The route of an on-link prefix is put in place, if it is not there. -/
theorem extends_installRoute (station : Station family) (id : InterfaceId) (net : Prefix family) :
    Extends station (station.installRoute id net).1 [.net net] := by
  refine ⟨fun destination => ?_, ?_⟩
  · rw [List.mem_singleton, installRoute]
    dsimp only
    split
    · -- There is a route to the prefix already.
      rename_i present
      obtain ⟨route, there, same⟩ := List.any_eq_true.mp present
      rw [Bool.and_eq_true, beq_iff_eq] at same
      refine ⟨.inl, ?_⟩
      rintro (led | rfl)
      · exact led
      · exact ⟨route, there, same.1⟩
    · -- The new route is the only one that is added.
      simp [LeadsTo, withTable, RoutingTable.add, Route.connected, or_and_right, exists_or, eq_comm]
  · rw [installRoute]
    dsimp only
    split
    · exact .refl _
    · exact .refl _

/-- What goes with an address is a route to its on-link prefix. -/
theorem extends_install (station : Station family) (id : InterfaceId)
    (entry : InterfaceAddress family) :
    Extends station (station.install id entry).1 entry.onLink?.toList := by
  -- The groups are joined first; they come without a route.
  have joined := extends_foldl (entry.address.companions entry.net?) (fun _ => id)
    (fun group interface => interface.addAddress group)
    (fun group interface => interface.addresses_subset_addAddress group) station
  rw [install, InterfaceAddress.onLink?]
  generalize entry.net? = net at joined ⊢
  cases net with
  | none => exact joined
  | some net => exact joined.trans (extends_installRoute _ id net)

/-- An address of a station brings its on-link prefix. -/
theorem extends_addAddress (station : Station family) (id : InterfaceId)
    {entry : InterfaceAddress family} (single : entry.isUnicast) :
    Extends station (station.addAddress id entry).1 entry.onLink?.toList := by
  rw [addAddress, if_pos single]
  exact (extends_modify fun interface => interface.addresses_subset_addAddress entry).trans
    (extends_install _ id entry)

/-- An interface that gets an address of a station lives. -/
theorem addAddress_lives {interface : Interface family}
    (there : station.interfaces.get? id = some interface) {entry : InterfaceAddress family}
    (single : entry.isUnicast) : (station.addAddress id entry).1.Lives id := by
  rw [addAddress, if_pos single]
  -- The address is there before anything is installed, and stays there.
  have given : (station.modify id (·.addAddress entry)).Lives id := by
    refine ⟨interface.addAddress entry, ?_, entry, interface.mem_addAddress entry, single⟩
    rw [modify, Dictionary.get?_modify, if_pos (beq_self_eq_true id), there]
    rfl
  exact given.grow (extends_install _ id entry).grow

/-- An interface that has no address yet is attached without a route. -/
theorem extends_attach (node : NodeId) (bare : (station.interfaces.at id).addresses = []) :
    Extends station (station.attach node id).1 [] := by
  let listening := station.modify id (·.addListener (.node node))
  have listens : Extends station listening [] := extends_modify fun _ => List.Subset.refl _
  have attached : Extends listening { listening with
      node := { listening.node with attached := listening.node.attached ++ [id] } } [] :=
    .of_table rfl (.refl _)
  rw [attach, bare]
  -- Nothing is installed, since there is no address.
  exact listens.trans (attached.trans (extends_renamed _))

/-- The station after an interface has got addresses. -/
def addAddresses (station : Station family) (id : InterfaceId)
    (entries : List (InterfaceAddress family)) : Station family :=
  entries.foldl (fun station entry => (station.addAddress id entry).1) station

/-- Addresses bring their on-link prefixes. -/
theorem extends_addAddresses (station : Station family) (id : InterfaceId)
    {entries : List (InterfaceAddress family)} (single : ∀ entry ∈ entries, entry.isUnicast) :
    Extends station (station.addAddresses id entries)
      (entries.filterMap (·.onLink?)) := by
  induction entries generalizing station with
  | nil => exact .of_table rfl (.refl _)
  | cons entry rest ih =>
    -- The rest starts from the station that the first address leaves behind.
    have first := extends_addAddress station id (single entry List.mem_cons_self)
    have later := ih (station.addAddress id entry).1 fun other member =>
      single other (List.mem_cons_of_mem _ member)
    have split : (entry :: rest).filterMap (·.onLink?) =
        entry.onLink?.toList ++ rest.filterMap (·.onLink?) := by
      rw [List.filterMap_cons]
      cases entry.onLink? with
      | none => rfl
      | some net => rfl
    rw [split]
    exact first.trans later

/-- An interface that gets some addresses lives. -/
theorem addAddresses_lives {interface : Interface family}
    (there : station.interfaces.get? id = some interface)
    {entries : List (InterfaceAddress family)} (some : entries ≠ [])
    (single : ∀ entry ∈ entries, entry.isUnicast) : (station.addAddresses id entries).Lives id := by
  -- The first address is enough, since those behind it take nothing away.
  obtain ⟨entry, rest, rfl⟩ := List.exists_cons_of_ne_nil some
  have first := addAddress_lives there (single entry List.mem_cons_self)
  exact first.grow (extends_addAddresses _ id fun other member =>
    single other (List.mem_cons_of_mem _ member)).grow

end Station

end NetworkLayer
