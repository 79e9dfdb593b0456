import NetworkLayer.Proofs.Addressing.Connected
import NetworkLayer.Proofs.Addressing.Groups

/-!
The addresses, connected routes and solicited-node groups of an IPv6 node over any course of reconfigurations.
Main statement: they go together after every step, whatever addresses share a prefix or a group and however
often interfaces leave and return.
-/

namespace NetworkLayer

open InterfaceAddress (Orderly Solicits Tidy leaving tidy_of_unicast)

namespace Station

section Remove

variable {station : Station .v6} {id : InterfaceId} (address : Address .v6)
  (present : id ∈ station.interfaces.keys)
include present

/-- An address that goes takes its solicited-node group along unless another one maps to it. -/
theorem leaveGroup_leaving :
    let after := (station.modify id (·.removeAddress address)).leaveGroup id address
    DiffersAt id station after ∧ after.node = station.node ∧
      (after.interfaces.at id).addresses =
        leaving (station.interfaces.at id).addresses address := by
  have removed : DiffersAt id station (station.modify id (·.removeAddress address)) :=
    .modify station _
  have left : ((station.modify id (·.removeAddress address)).interfaces.at id).addresses =
      (station.interfaces.at id).addresses.eraseP (·.address == address) := by
    rw [← Interface.removeAddress_addresses]
    exact congrArg Interface.addresses (Interfaces.at_modify present)
  simp only [leaveGroup, left, leaving]
  split
  · exact ⟨removed, rfl, left⟩
  · -- The group goes the same way as the address did.
    refine ⟨removed.trans (.modify ..), rfl, ?_⟩
    rw [← left, ← Interface.removeAddress_addresses]
    exact congrArg Interface.addresses (Interfaces.at_modify (removed.keys ▸ present))

variable {gone : InterfaceAddress .v6}
  (found : (station.interfaces.at id).addresses.find? (·.address == address) = some gone)
include found

/-- A removal takes an entry, its group and its route as far as no other entry needs them. -/
theorem removeAddress_leaving :
    let result := station.removeAddress id address
    let left := leaving (station.interfaces.at id).addresses address
    result.1 = true ∧ DiffersAt id station result.2.1 ∧
      (result.2.1.interfaces.at id).addresses = left ∧
      ((∃ net, gone.net? = some net ∧ (∀ other ∈ left, other.net? ≠ some net) ∧
          result.2.1.node.table = station.node.table.without fun route =>
            route.origin == .connected && route.destination == .net net && route.interface == id) ∨
        (∀ net, gone.net? = some net → ∃ other ∈ left, other.net? = some net) ∧
          result.2.1.node.table = station.node.table) := by
  obtain ⟨differs, node, addresses⟩ := leaveGroup_leaving address present
  simp only [removeAddress, found]
  generalize (station.modify id (·.removeAddress address)).leaveGroup id address = after
    at differs node addresses ⊢
  -- An entry without a prefix leaves the table alone.
  cases own : gone.net? with
  | none =>
    refine ⟨rfl, differs, addresses, Or.inr ⟨fun net its => ?_, congrArg Node.table node⟩⟩
    cases its
  | some net =>
    -- The route goes with the last entry that has the prefix.
    cases shared : (after.interfaces.at id).addresses.any fun entry => entry.net? == some net with
    | true =>
      simp only [retract, shared, if_true]
      refine ⟨trivial, differs, addresses, Or.inr ⟨fun range same => ?_, congrArg Node.table node⟩⟩
      rw [addresses, List.any_eq_true] at shared
      obtain ⟨other, there, on⟩ := shared
      exact ⟨other, there, (beq_iff_eq.mp on).trans same⟩
    | false =>
      simp only [retract, shared, Bool.false_eq_true, if_false, dropBroadcast]
      refine ⟨trivial, differs.withTable _, addresses, Or.inl ⟨net, rfl, ?_, ?_⟩⟩
      · rw [addresses, List.any_eq_false] at shared
        intro other there on
        exact shared other there (beq_iff_eq.mpr on)
      · rw [withTable, node]

end Remove

/-- Addresses, connected routes and solicited-node groups that go together. -/
structure Coherent (station : Station .v6) : Prop extends Connected station where
  /-- The group of an address is joined exactly if some unicast address maps to it. -/
  solicited : ∀ id ∈ station.node.attached, ∀ address : Address .v6,
    .multicast address.solicitedNode ∈ (station.interfaces.at id).addresses ↔
      ∃ own ∈ station.unicastOn id, own.address.solicitedNode = address.solicitedNode

end Station

open Station

/-- An IPv6 station, and the interfaces that have been attached to its node so far. -/
structure Roster where
  station : Station .v6
  met : List InterfaceId

namespace Roster

/-- What a change makes of the station and of the interfaces that have been attached. -/
def changed (node : NodeId) (roster : Roster) (change : Change .v6) : Roster where
  station := roster.station.changed node change
  met := match change with
    | .attach id => id :: roster.met
    | _ => roster.met

/-- Whether a change is in order: an interface is attached once at a time, the first time with unicast
addresses only, and attached interfaces are given unicast addresses of a node and lose those they have. -/
def InOrder (roster : Roster) : Change .v6 → Prop
  | .attach id => id ∈ roster.station.interfaces.keys ∧ id ∉ roster.station.node.attached ∧
      (id ∉ roster.met →
        ∀ entry ∈ (roster.station.interfaces.at id).addresses, entry.isUnicast = true)
  | .detach _ => True
  | .give id entry => id ∈ roster.station.node.attached ∧ entry.isUnicast = true ∧
      entry.address.isMulticast = false
  | .take id address => id ∈ roster.station.node.attached ∧
      ∃ entry ∈ roster.station.unicastOn id, entry.address = address

/-- A node that has no interfaces yet and no routes. -/
structure Blank (roster : Roster) : Prop where
  attached : roster.station.node.attached = []
  table : roster.station.node.table = .empty
  met : roster.met = []

/-- What changes in order lead to. -/
inductive Reached (node : NodeId) : Roster → Prop
  | blank {roster : Roster} (start : Blank roster) : Reached node roster
  | step {roster : Roster} (before : Reached node roster) (change : Change .v6)
      (inOrder : roster.InOrder change) : Reached node (roster.changed node change)

/-- What every change keeps: the routes are those of the addresses, and the groups of an interface that
has been attached are those of its addresses, also while it is away. -/
structure Kept (roster : Roster) : Prop where
  routed : roster.station.Routed
  known : ∀ id ∈ roster.met, id ∈ roster.station.interfaces.keys
  met : ∀ id ∈ roster.station.node.attached, id ∈ roster.met
  orderly : ∀ id ∈ roster.met, Orderly (roster.station.interfaces.at id).addresses

variable {roster : Roster} {id : InterfaceId} (node : NodeId)

/-- A node without interfaces has nothing to keep. -/
theorem Blank.kept (blank : Blank roster) : Kept roster := by
  refine ⟨routed_of_empty blank.attached blank.table, ?_, ?_, ?_⟩
  · simp [blank.met]
  · simp [blank.attached]
  · simp [blank.met]

section Kept

variable (kept : Kept roster)
include kept

/-- A change at one interface keeps the roster if it keeps the routes and the groups there. -/
theorem Kept.change {after : Station .v6} (differs : DiffersAt id roster.station after)
    (routed : after.Routed) (orderly : Orderly (after.interfaces.at id).addresses) :
    Kept { roster with station := after } := by
  -- Away from the interface nothing has changed, and at it the groups are orderly by assumption.
  refine ⟨routed, fun other among => ?_, fun other among => ?_, fun other among => ?_⟩
  · exact differs.keys ▸ kept.known other among
  · exact kept.met other (differs.attached ▸ among)
  · by_cases here : other = id
    · exact here ▸ orderly
    · rw [differs.elsewhere other here]
      exact kept.orderly other among

/-- An interface that is attached, for the first time or again, brings what goes with its addresses. -/
theorem Kept.attach (inOrder : roster.InOrder (.attach id)) :
    Kept (roster.changed node (.attach id)) := by
  obtain ⟨present, missing, first⟩ := inOrder
  obtain ⟨placed, same, attached, _, brings⟩ := roster.station.attach_brings node id
  have stays : (roster.station.attach node id).1.interfaces.keys =
      roster.station.interfaces.keys := brings.differs.keys.trans same.keys
  have here : Orderly ((roster.station.attach node id).1.interfaces.at id).addresses := by
    rw [brings.addresses (same.keys ▸ present), same.addresses]
    by_cases before : id ∈ roster.met
    · -- It comes back with the groups that it had.
      refine (kept.orderly id before).toTidy.bring (fun entry owed => List.mem_filter.mp owed)
        fun entry there single => Or.inr ((kept.orderly id before).joined entry there single)
    · -- An interface that is new has no groups yet, and each of its addresses brings its own.
      refine (tidy_of_unicast (first before)).bring (fun entry owed => List.mem_filter.mp owed)
        fun entry there single => Or.inl (List.mem_filter.mpr ⟨there, single⟩)
  refine ⟨kept.routed.attach node present missing, fun other among => ?_, fun other among => ?_,
    fun other among => ?_⟩
  · show other ∈ (roster.station.attach node id).1.interfaces.keys
    rw [stays]
    rcases List.mem_cons.mp among with rfl | before
    · exact present
    · exact kept.known other before
  · -- What is attached now was attached before, or it is the interface itself.
    have there : other ∈ roster.station.node.attached ++ [id] :=
      attached ▸ brings.differs.attached ▸ among
    rcases List.mem_append.mp there with before | last
    · exact List.mem_cons_of_mem _ (kept.met other before)
    · exact List.mem_singleton.mp last ▸ List.mem_cons_self
  · show Orderly ((roster.station.attach node id).1.interfaces.at other).addresses
    by_cases same_id : other = id
    · exact same_id ▸ here
    · rw [brings.differs.elsewhere other same_id, same.addresses]
      exact kept.orderly other ((List.mem_cons.mp among).resolve_left same_id)

/-- An interface that is detached keeps its addresses and their groups. -/
theorem Kept.detach : Kept (roster.changed node (.detach id)) := by
  by_cases attached : id ∈ roster.station.node.attached
  case neg =>
    simpa only [changed, Station.changed, tallied, roster.station.detach_missing node attached] using kept
  -- The interface keeps its addresses while it is away, so only the routes go.
  obtain ⟨same, left, _⟩ := roster.station.detach_takes node attached
  refine ⟨kept.routed.detach node, fun other among => ?_, fun other among => ?_,
    fun other among => ?_⟩
  · exact same.keys ▸ kept.known other among
  · exact kept.met other (List.mem_of_mem_erase (left ▸ among))
  · show Orderly ((roster.station.detach node id).2.1.interfaces.at other).addresses
    rw [same.addresses]
    exact kept.orderly other among

/-- An address that is given brings its groups and its route. -/
theorem Kept.give {entry : InterfaceAddress .v6} (inOrder : roster.InOrder (.give id entry)) :
    Kept (roster.changed node (.give id entry)) := by
  obtain ⟨attached, single, unicast⟩ := inOrder
  have among := kept.met id attached
  have orderly := kept.orderly id among
  obtain ⟨differs, addresses⟩ :=
    roster.station.addAddress_addresses (kept.known id among) single
  have flat : entry.address.companions entry.net? =
      [entry].flatMap fun entry => entry.address.companions entry.net? := by simp
  have here : Orderly ((roster.station.addAddress id entry).1.interfaces.at id).addresses := by
    rw [addresses, List.foldl_cons, flat]
    refine (orderly.toTidy.join_own single unicast).bring (fun other owed => ?_)
      fun other there alone => ?_
    · rw [List.mem_singleton.mp owed]
      exact ⟨(InterfaceAddress.mem_joining ..).mpr (Or.inr rfl), single⟩
    · -- Each address that was there has its group already.
      rcases (InterfaceAddress.mem_joining ..).mp there with before | rfl
      · exact Or.inr ((InterfaceAddress.mem_joining ..).mpr
          (Or.inl (orderly.joined other before alone)))
      · exact Or.inl List.mem_cons_self
  exact kept.change differs (kept.routed.give attached single) here

/-- An address that is taken goes alone, and with it what no other address needs. -/
theorem Kept.take {address : Address .v6} (inOrder : roster.InOrder (.take id address)) :
    Kept (roster.changed node (.take id address)) ∧
      (roster.station.removeAddress id address).1 = true ∧
      TakesOnly id address roster.station (roster.station.removeAddress id address).2.1 := by
  obtain ⟨attached, own, listed, rfl⟩ := inOrder
  obtain ⟨there, single⟩ := List.mem_filter.mp listed
  have among := kept.met id attached
  obtain ⟨gone, found, same, orderly, unicast⟩ := (kept.orderly id among).leave there single
  obtain ⟨told, differs, addresses, table⟩ := removeAddress_leaving _ (kept.known id among) found
  have left : (roster.station.removeAddress id own.address).2.1.unicastOn id =
      (roster.station.unicastOn id).erase gone := by
    rw [unicastOn, addresses]
    exact unicast
  -- Only a unicast address can be on a prefix.
  have unicastOn_of_net {other : InterfaceAddress .v6} {net : Prefix .v6}
      (stays : other ∈ leaving (roster.station.interfaces.at id).addresses own.address)
      (on : other.net? = some net) :
      other ∈ (roster.station.removeAddress id own.address).2.1.unicastOn id := by
    refine List.mem_filter.mpr ⟨addresses ▸ stays, ?_⟩
    cases role : other.isUnicast with
    | true => rfl
    | false =>
      rw [orderly.net?_eq_none stays role] at on
      cases on
  have routed : (roster.station.removeAddress id own.address).2.1.Routed := by
    refine kept.routed.take differs attached left ?_ fun route => ?_
    · rcases table with ⟨net, _, _, table⟩ | ⟨_, table⟩
      · exact table ▸ List.filter_sublist
      · exact table ▸ List.Sublist.refl _
    · rcases table with ⟨net, its, last, table⟩ | ⟨shared, table⟩
      · -- No address with the prefix is left that would owe its route.
        rw [table, kept.routed.mem_without]
        refine and_congr_right fun _ => not_congr ⟨fun same => ?_, ?_⟩
        · exact ⟨net, its, same, fun other stays on =>
            last other (addresses ▸ (List.mem_filter.mp stays).1) on⟩
        · rintro ⟨other, on, same, _⟩
          rwa [Option.some_inj.mp (its.symm.trans on)]
      · -- The prefix has another address, so its route stays.
        rw [table, iff_self_and]
        rintro - ⟨net, its, _, alone⟩
        obtain ⟨other, stays, on⟩ := shared net its
        exact alone other (unicastOn_of_net stays on) on
  exact ⟨kept.change differs routed (addresses ▸ orderly), told, ⟨gone, same, left⟩,
    fun other elsewhere => unicastOn_of_same (differs.elsewhere other elsewhere)⟩

/-- What every change keeps makes a station coherent. -/
theorem Kept.coherent : roster.station.Coherent := by
  refine ⟨kept.routed.isConnected, fun id attached address => ?_⟩
  rw [(kept.orderly id (kept.met id attached)).mem_iff_solicits]
  simp only [Solicits, unicastOn, List.mem_filter, and_assoc]

end Kept

/-- Changes in order keep the routes and the groups with the addresses. -/
theorem Reached.kept {node : NodeId} (reached : Reached node roster) : Kept roster := by
  -- The induction is on the changes, and each kind of change keeps the invariant.
  induction reached with
  | blank start => exact start.kept
  | step _ change inOrder ih =>
    cases change with
    | attach id => exact ih.attach node inOrder
    | detach id => exact ih.detach node
    | give id entry => exact ih.give node inOrder
    | take id address => exact (ih.take node inOrder).1

/--
However an IPv6 node is reconfigured, its addresses, its connected routes and its solicited-node groups go
together, and a removal is done and takes no other unicast address.

Addresses may share a prefix or a group, one address may be there with several prefixes, and interfaces may
leave with addresses and return with them.
-/
theorem reached_coherent {node : NodeId} (reached : Reached node roster) :
    roster.station.Coherent ∧ ∀ id address, roster.InOrder (.take id address) →
      (roster.station.removeAddress id address).1 = true ∧
        TakesOnly id address roster.station (roster.station.removeAddress id address).2.1 := by
  have kept := reached.kept
  refine ⟨kept.coherent, fun id address inOrder => ?_⟩
  obtain ⟨_, told, only⟩ := kept.take node inOrder
  exact ⟨told, only⟩

/-- A node beside an interface with `fe80::1/64`. -/
def linkLocal : Roster where
  station := {
    node := .create {} 0
    interfaces := ⟨[(0, .loopback), (1, .onLink 0 (some (.unicast (.ofNat (0xFE80 <<< 112 + 1)) 64)))]⟩ }
  met := []

/-- The interface is attached, given `2001:db8::1/64` and `2001:db8::1/48`, detached and attached again. -/
def returning : Roster :=
  [.attach 1, .give 1 (.unicast (.ofNat (0x20010DB8 <<< 96 + 1)) 64),
    .give 1 (.unicast (.ofNat (0x20010DB8 <<< 96 + 1)) 48), .detach 1, .attach 1].foldl (changed 0)
    linkLocal

/-- Three entries share one group, and a removal of `2001:db8::1` leaves the group and two of them. -/
theorem returning_coherent : Reached 0 returning ∧ returning.station.Coherent ∧
    (returning.station.removeAddress 1 (.ofNat (0x20010DB8 <<< 96 + 1))).1 = true ∧
    TakesOnly 1 (.ofNat (0x20010DB8 <<< 96 + 1)) returning.station
      (returning.station.removeAddress 1 (.ofNat (0x20010DB8 <<< 96 + 1))).2.1 ∧
    ((returning.station.removeAddress 1 (.ofNat (0x20010DB8 <<< 96 + 1))).2.1.interfaces.at
      1).addresses.length = 5 := by
  -- Each step is in order where it stands, and the returning interface has been met before.
  have first : Reached 0 (linkLocal.changed 0 (.attach 1)) :=
    .step (.blank ⟨rfl, rfl, rfl⟩) (.attach 1)
      ⟨by decide, by decide, fun _ => by decide +kernel⟩
  have second := Reached.step first (.give 1 (.unicast (.ofNat (0x20010DB8 <<< 96 + 1)) 64))
    ⟨by decide +kernel, rfl, by decide +kernel⟩
  have third := Reached.step second (.give 1 (.unicast (.ofNat (0x20010DB8 <<< 96 + 1)) 48))
    ⟨by decide +kernel, rfl, by decide +kernel⟩
  have away := Reached.step third (.detach 1) trivial
  have reached : Reached 0 returning := Reached.step away (.attach 1)
    ⟨by decide +kernel, by decide +kernel, fun missing => absurd List.mem_cons_self missing⟩
  obtain ⟨coherent, takes⟩ := reached_coherent reached
  obtain ⟨told, only⟩ := takes 1 (.ofNat (0x20010DB8 <<< 96 + 1)) ⟨by decide +kernel,
    .unicast (.ofNat (0x20010DB8 <<< 96 + 1)) 64, by decide +kernel, rfl⟩
  exact ⟨reached, coherent, told, only, by decide +kernel⟩

end Roster

end NetworkLayer
