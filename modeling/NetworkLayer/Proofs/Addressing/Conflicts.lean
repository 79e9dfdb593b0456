import NetworkLayer.Proofs.Addressing.Consistency

/-!
What goes wrong when configured addresses get in each other's way. Main statement: the addresses and the
connected routes of an IPv4 node stay consistent over every course of reconfigurations exactly if the
addresses that may be configured leave each other alone.
-/

namespace NetworkLayer.Station

section Necessary

variable {allowed : InterfaceAddress .v4 → Prop}

/-- A new node beside an interface that has some addresses. -/
def newNode (addresses : List (InterfaceAddress .v4)) : Station .v4 where
  node := .create {} 0
  interfaces := ⟨[(0, .loopback), (1, { name := "link", addresses, medium := .link 0 })]⟩

/-- A station that reconfigurations lead to, with an attached interface that has some addresses. -/
structure Stands (allowed : InterfaceAddress .v4 → Prop) (node : NodeId)
    (addresses : List (InterfaceAddress .v4)) (station : Station .v4) : Prop where
  reached : Reached allowed node station
  attached : 1 ∈ station.node.attached
  known : 1 ∈ station.interfaces.keys
  addresses : (station.interfaces.at 1).addresses = addresses

/-- An interface that has groups but no other addresses may be attached. -/
theorem stands_of_groups (allowed : InterfaceAddress .v4 → Prop) (node : NodeId)
    {groups : List (InterfaceAddress .v4)}
    (bare : ∀ group ∈ groups, group.isUnicast = false ∧ group.length = none) :
    Stands allowed node groups ((newNode groups).attach node 1).1 := by
  have known : 1 ∈ (newNode groups).interfaces.keys := List.mem_cons_of_mem _ List.mem_cons_self
  have placing : (newNode groups).InOrder allowed (.attach 1) :=
    ⟨known, List.not_mem_nil, fun group member => admissible_of_bare (bare group member)⟩
  obtain ⟨placed, same, attached, -, brings⟩ := (newNode groups).attach_brings node 1
  -- Groups bring nothing.
  have none : ((newNode groups).interfaces.at 1).addresses.filter (·.isUnicast) = [] :=
    List.filter_eq_nil_iff.mpr fun group member => by simp [(bare group member).1]
  rw [none] at brings
  have there : 1 ∈ placed.interfaces.keys := same.keys ▸ known
  refine ⟨.step (.fresh ⟨rfl, rfl⟩) placing, ?_, brings.differs.keys ▸ there,
    (brings.addresses there).trans (same.addresses 1)⟩
  rw [brings.differs.attached, attached]
  exact List.mem_append_right _ List.mem_cons_self

/-- The interface may be given an address of the set. -/
theorem Stands.give {node : NodeId} {addresses : List (InterfaceAddress .v4)} {station : Station .v4}
    (stands : Stands allowed node addresses station) {entry : InterfaceAddress .v4}
    (single : entry.isUnicast = true) (permitted : allowed entry) :
    Stands allowed node ((entry :: entry.address.companions entry.net?).foldl
      InterfaceAddress.joining addresses) (station.addAddress 1 entry).1 := by
  obtain ⟨differs, given⟩ := station.addAddress_addresses stands.known single
  have giving : station.InOrder allowed (.give 1 entry) := ⟨stands.attached, single, permitted⟩
  exact ⟨.step stands.reached giving, differs.attached ▸ stands.attached, differs.keys ▸ stands.known,
    stands.addresses ▸ given⟩

/-- The interface may be given two addresses, behind what it has and what the first one brings. -/
theorem stands_with_two (node : NodeId) {groups front : List (InterfaceAddress .v4)}
    (bare : ∀ group ∈ groups, group.isUnicast = false ∧ group.length = none)
    (distinct : groups.Nodup) {first second : InterfaceAddress .v4}
    (single : first.isUnicast = true) (permitted : allowed first)
    (alike : second.isUnicast = true) (likewise : allowed second)
    (starts : front <+: (first :: first.address.companions first.net?).foldl
      InterfaceAddress.joining groups) :
    ∃ station rest, Stands allowed node (front ++ rest) station ∧ (front ++ rest).Nodup ∧
      ∀ entry, entry ∈ front ++ rest ↔ (entry ∈ groups ∨
        entry ∈ first :: first.address.companions first.net?) ∨
          entry ∈ second :: second.address.companions second.net? := by
  -- The two addresses are given one after the other, each with its companions behind what is there.
  have stands := ((stands_of_groups allowed node bare).give single permitted).give alike likewise
  obtain ⟨rest, parts⟩ := starts.trans (InterfaceAddress.prefix_foldl_joining _
    (second :: second.address.companions second.net?))
  refine ⟨_, rest, parts ▸ stands, ?_, fun entry => ?_⟩
  · rw [parts]
    exact InterfaceAddress.nodup_foldl_joining _ _ (InterfaceAddress.nodup_foldl_joining _ _ distinct)
  · rw [parts, InterfaceAddress.mem_foldl_joining, InterfaceAddress.mem_foldl_joining]

variable {node : NodeId} (always : ∀ station, Reached allowed node station → station.Consistent)
  {one other : InterfaceAddress .v4} (single : one.isUnicast = true) (permitted : allowed one)
  (alike : other.isUnicast = true) (likewise : allowed other) {net : Prefix .v4}
  (own : other.net? = some net) (short : net.length < 32)
include always single permitted alike likewise own short

/-- An address that is the broadcast address of a prefix can have that one taken away. -/
theorem address_ne_broadcast : one.address ≠ net.directedBroadcast := by
  intro same
  -- A node is set up where the broadcast address stands in front of the address that equals it.
  let broadcast : InterfaceAddress .v4 := .broadcast net.directedBroadcast
  have bare : ∀ group ∈ [broadcast], group.isUnicast = false ∧ group.length = none := by
    rintro _ (_ | ⟨_, ⟨⟩⟩)
    exact ⟨rfl, rfl⟩
  obtain ⟨station, rest, stands, distinct, among⟩ := stands_with_two node bare
    (List.pairwise_singleton ..) alike likewise single permitted
    (InterfaceAddress.prefix_foldl_joining ..)
  -- The broadcast address comes first, so it is what goes.
  have found : (station.interfaces.at 1).addresses.find? (·.address == net.directedBroadcast) =
      some broadcast := by
    rw [stands.addresses]
    exact List.find?_cons_of_pos (beq_self_eq_true _)
  -- Both addresses were given, so they are on the interface when the removal comes.
  have listed {entry : InterfaceAddress .v4} (there : entry = other ∨ entry = one) :
      entry ∈ (station.interfaces.at 1).addresses := by
    rw [stands.addresses, among]
    rcases there with rfl | rfl
    · exact Or.inl (Or.inr List.mem_cons_self)
    · exact Or.inr List.mem_cons_self
  have taking : station.InOrder allowed (.take 1 net.directedBroadcast) :=
    ⟨stands.attached, one, List.mem_filter.mpr ⟨listed (Or.inr rfl), single⟩, same⟩
  -- The entry that goes has no prefix, so neither a route nor a group goes with it.
  obtain ⟨left, node⟩ := removeAddress_shared stands.known found fun _ on => nomatch on
  have foreign : other ≠ broadcast := fun group => by
    rw [group] at alike
    cases alike
  -- The address on the prefix is left without its broadcast address, which consistency asks for.
  have stays : other ∈ (station.removeAddress 1 net.directedBroadcast).2.1.unicastOn 1 :=
    List.mem_filter.mpr
      ⟨left ▸ (List.mem_erase_of_ne foreign).mpr (listed (Or.inl rfl)), alike⟩
  have there : broadcast ∈ _ := (always _ (.step stands.reached taking)).broadcast 1
    (node ▸ stands.attached) other stays net own short
  rw [changed, tallied, left, stands.addresses] at there
  exact distinct.not_mem_erase there

/-- Prefixes with one broadcast address can have it taken away. -/
theorem net_eq_of_broadcast {range : Prefix .v4} (its : one.net? = some range)
    (small : range.length < 32) (equal : range.directedBroadcast = net.directedBroadcast) :
    range = net := by
  refine Decidable.byContradiction fun differ => ?_
  -- Two prefixes with one broadcast address share the entry for it, and the first removal takes it from both.
  let broadcast : InterfaceAddress .v4 := .broadcast net.directedBroadcast
  have foreign : broadcast ≠ other := fun group => by
    rw [← group] at alike
    cases alike
  have brought : other.address.companions other.net? =
      [broadcast, .broadcast .limitedBroadcast, .multicast .allHosts] := by
    rw [own, companions_of_short _ short]
  have joined : InterfaceAddress.joining [other] broadcast = [other, broadcast] := by
    rw [InterfaceAddress.joining, if_neg (by simpa using foreign)]
    rfl
  -- The address that goes first has its broadcast address right behind it.
  have starts : [other, broadcast] <+: (other :: other.address.companions other.net?).foldl
      InterfaceAddress.joining [] := by
    rw [brought, ← joined]
    exact InterfaceAddress.prefix_foldl_joining ..
  obtain ⟨station, rest, stands, distinct, among⟩ := stands_with_two node
    (fun _ none => absurd none List.not_mem_nil) List.nodup_nil alike likewise single permitted starts
  -- A removal by the address finds the first entry, which is the one that was given first.
  have found : (station.interfaces.at 1).addresses.find? (·.address == other.address) =
      some other := by
    rw [stands.addresses]
    exact List.find?_cons_of_pos (beq_self_eq_true _)
  have erased : (station.interfaces.at 1).addresses.erase other = broadcast :: rest := by
    rw [stands.addresses]
    exact List.erase_cons_head ..
  have taking : station.InOrder allowed (.take 1 other.address) :=
    ⟨stands.attached, other, List.mem_filter.mpr
      ⟨stands.addresses ▸ List.mem_cons_self, alike⟩, rfl⟩
  obtain ⟨once, alone⟩ := List.nodup_cons.mp distinct
  -- The second address is on another prefix, so the first prefix has no address left.
  have last : ∀ entry ∈ (station.interfaces.at 1).addresses.erase other, entry.net? ≠ some net := by
    intro entry there on
    rw [erased] at there
    have bare (group : InterfaceAddress .v4) (length : group.length = none) :
        group.net? ≠ some net := by simp [InterfaceAddress.net?, length]
    -- Of the two addresses and what they bring, only the one that goes is on the prefix.
    rcases (among entry).mp (List.mem_cons_of_mem other there) with
      (none | (_ | ⟨_, group⟩)) | (_ | ⟨_, group⟩)
    · cases none
    · exact once there
    · exact bare entry (Address.companions_bare group).2 on
    · exact differ (Option.some_inj.mp (its.symm.trans on))
    · exact bare entry (Address.companions_bare group).2 on
  -- With its last address the prefix gives up the broadcast address, which is the first entry behind.
  obtain ⟨left, -⟩ := removeAddress_last stands.known found own last
  rw [if_pos short, erased, List.eraseP_cons_of_pos (by exact beq_self_eq_true _)] at left
  have stays : one ∈ (station.removeAddress 1 other.address).2.1.unicastOn 1 := by
    refine List.mem_filter.mpr ⟨left ▸ ?_, single⟩
    have listed := (among one).mpr (Or.inr List.mem_cons_self)
    rw [List.cons_append, List.cons_append, List.nil_append, List.mem_cons, List.mem_cons] at listed
    -- The second address is neither the first one nor a group, so it stands in the rest.
    rcases listed with same | same | there
    · exact absurd (Option.some_inj.mp (its.symm.trans (same ▸ own))) differ
    · rw [same] at single
      cases single
    · exact there
  -- Consistency asks for a broadcast address that was there once and went.
  have there := (always _ (.step stands.reached taking)).broadcast 1
    ((station.removeAddress_differs 1 other.address).attached ▸ stands.attached) one stays range its
    small
  rw [changed, tallied, left, equal] at there
  exact (List.nodup_cons.mp alone).1 there

end Necessary

/--
However an IPv4 node is reconfigured, its addresses and its connected routes stay consistent and a removal
takes no other unicast address, if and only if the addresses that may be configured leave each other alone.

A removal goes by the address alone: it takes the first entry for it, and the first entry for the broadcast
address of a prefix that is left. So an address may lose its broadcast address, or be taken for one.
-/
theorem consistent_iff_apart (node : NodeId) (allowed : InterfaceAddress .v4 → Prop) :
    (∀ station, Reached allowed node station → station.Consistent ∧
      ∀ id address, station.InOrder allowed (.take id address) →
        TakesOnly id address station (station.changed node (.take id address))) ↔
    Apart allowed := by
  constructor
  · -- Each of the two demands is what a course of two addresses and a removal refutes.
    intro always one other single permitted alike likewise net own short
    have consistent := fun station reached => (always station reached).1
    exact ⟨address_ne_broadcast consistent single permitted alike likewise own short,
      fun range its small equal => net_eq_of_broadcast consistent single permitted alike likewise own
        short its small equal⟩
  · intro apart station reached
    -- What is kept along the way is what a removal needs to take the right entry.
    have kept := reached.kept apart
    refine ⟨kept.consistent, ?_⟩
    rintro id _ ⟨attached, own, listed, rfl⟩
    exact (kept.take attached apart listed).2

/-- The addresses of the subnet `10.0.0.0/24` but for its broadcast address. -/
def ofSubnet (entry : InterfaceAddress .v4) : Prop :=
  entry.net? = some (.containing (.ofNat 0x0A000000) 24) ∧ entry.address ≠ .ofNat 0x0A0000FF

/-- Addresses of one subnet stay consistent whatever is done. -/
theorem subnet_stays_consistent : ∀ station, Reached ofSubnet 0 station → station.Consistent ∧
    ∀ id address, station.InOrder ofSubnet (.take id address) →
      TakesOnly id address station (station.changed 0 (.take id address)) := by
  refine (consistent_iff_apart 0 ofSubnet).mpr fun one other _ mine _ yours net own _ => ?_
  obtain rfl : .containing (.ofNat 0x0A000000) 24 = net := Option.some_inj.mp (yours.1.symm.trans own)
  exact ⟨mine.2, fun range its _ _ => Option.some_inj.mp (its.symm.trans mine.1)⟩

/-- A node with the addresses `10.0.0.255/8` and `10.0.0.1/24` on its only interface. -/
def overlapping : Station .v4 :=
  [.attach 1, .give 1 (.unicast (.ofNat 0x0A0000FF) 8),
    .give 1 (.unicast (.ofNat 0x0A000001) 24)].foldl (changed 0) (newNode [])

/-- With `10.0.0.1/24` the address `10.0.0.255/8` goes too, since it is taken for the broadcast address of
the subnet, and a route is left without an address. -/
theorem address_taken_for_broadcast : Reached (fun _ => True) 0 overlapping ∧
    overlapping.InOrder (fun _ => True) (.take 1 (.ofNat 0x0A000001)) ∧
    let after := overlapping.changed 0 (.take 1 (.ofNat 0x0A000001))
    after.unicastOn 1 = [] ∧
      (after.routesTo 1 (.containing (.ofNat 0x0A000000) 8)).length = 1 ∧
      ¬ after.Consistent ∧ ¬ TakesOnly 1 (.ofNat 0x0A000001) overlapping after := by
  have bare : ∀ group ∈ ([] : List (InterfaceAddress .v4)),
      group.isUnicast = false ∧ group.length = none := by simp
  -- The two addresses are given to a new interface that has none.
  have reached : Reached (fun _ => True) 0 overlapping :=
    (((stands_of_groups _ 0 bare).give rfl trivial).give rfl trivial).reached
  have left : (overlapping.changed 0 (.take 1 (.ofNat 0x0A000001))).unicastOn 1 = [] := by
    decide +kernel
  refine ⟨reached, ⟨by decide +kernel, .unicast (.ofNat 0x0A000001) 24, by decide +kernel, rfl⟩, left,
    by decide +kernel, fun consistent => ?_, fun ⟨⟨entry, address, erased⟩, _⟩ => ?_⟩
  · -- The route to the wide prefix is still there, although no address is on it.
    have counted := consistent.connected 1 (by decide +kernel) (.containing (.ofNat 0x0A000000) 8)
    revert counted
    decide +kernel
  · -- The entry for the removed address is not the one that went as well.
    have foreign : InterfaceAddress.unicast (.ofNat 0x0A0000FF) 8 ≠ entry := fun same => by
      rw [← same] at address
      revert address
      decide
    have listed : .unicast (.ofNat 0x0A0000FF) 8 ∈ overlapping.unicastOn 1 := by decide +kernel
    have stays := (List.mem_erase_of_ne foreign).mpr listed
    rw [← erased, left] at stays
    cases stays

end NetworkLayer.Station
