import NetworkLayer.Proofs.Addressing.Connected

/-!
The addresses and the connected routes of an IPv4 node over any course of reconfigurations. Main statement:
they stay consistent if the addresses that may be configured leave each other alone, that is, if none of them
is the broadcast address of a prefix and no two prefixes have one broadcast address.
-/

namespace NetworkLayer.Station

section Defs

variable (allowed : InterfaceAddress .v4 → Prop)

/-- Addresses, connected routes and broadcast addresses that go together. -/
structure Consistent (station : Station .v4) : Prop extends Connected station where
  /-- An address on a prefix with a broadcast address has that address next to it. -/
  broadcast : ∀ id ∈ station.node.attached, ∀ entry ∈ station.unicastOn id, ∀ net,
    entry.net? = some net → net.length < 32 →
      .broadcast net.directedBroadcast ∈ (station.interfaces.at id).addresses

/-- Unicast addresses of a set that leave each other alone: none of them is the broadcast address of a
prefix, and prefixes with one broadcast address are the same. -/
def Apart : Prop :=
  ∀ one other : InterfaceAddress .v4, one.isUnicast = true → allowed one → other.isUnicast = true →
    allowed other → ∀ net, other.net? = some net → net.length < 32 →
      one.address ≠ net.directedBroadcast ∧ ∀ range, one.net? = some range → range.length < 32 →
        range.directedBroadcast = net.directedBroadcast → range = net

/-- An address that may stand on an interface: a unicast one of a set, or a group without a prefix. -/
structure Admissible (entry : InterfaceAddress .v4) : Prop where
  own : entry.isUnicast = true → allowed entry
  group : entry.isUnicast = false → entry.length = none

/-- Whether a change is in order: an interface with admissible addresses is attached once at a time, and
unicast addresses of the set are given to attached interfaces and taken from where they are. -/
def InOrder (station : Station .v4) : Change .v4 → Prop
  | .attach id => id ∈ station.interfaces.keys ∧ id ∉ station.node.attached ∧
      ∀ entry ∈ (station.interfaces.at id).addresses, Admissible allowed entry
  | .detach _ => True
  | .give id entry => id ∈ station.node.attached ∧ entry.isUnicast = true ∧ allowed entry
  | .take id address => id ∈ station.node.attached ∧
      ∃ entry ∈ station.unicastOn id, entry.address = address

/-- A node without interfaces and routes. -/
structure Fresh (station : Station .v4) : Prop where
  attached : station.node.attached = []
  table : station.node.table = .empty

/-- The stations that changes in order lead to. -/
inductive Reached (node : NodeId) : Station .v4 → Prop
  | fresh {station : Station .v4} (start : Fresh station) : Reached node station
  | step {station : Station .v4} (before : Reached node station) {change : Change .v4}
      (inOrder : station.InOrder allowed change) : Reached node (station.changed node change)

end Defs

/-- What every change keeps: the routes are those of the addresses, which are admissible, and the broadcast
addresses are there. -/
structure Kept (allowed : InterfaceAddress .v4 → Prop) (station : Station .v4) : Prop
    extends Routed station where
  admissible : ∀ id ∈ station.node.attached, ∀ entry ∈ (station.interfaces.at id).addresses,
    Admissible allowed entry
  broadcast : ∀ id ∈ station.node.attached, ∀ entry ∈ station.unicastOn id, ∀ net,
    entry.net? = some net → net.length < 32 →
      .broadcast net.directedBroadcast ∈ (station.interfaces.at id).addresses

section Companions

/-- The broadcast address of the prefix is the first to come with an address. -/
theorem companions_of_short (address : Address .v4) {net : Prefix .v4} (short : net.length < 32) :
    address.companions (some net) =
      [.broadcast net.directedBroadcast, .broadcast .limitedBroadcast, .multicast .allHosts] := by
  have kept : (some net).filter (·.length < 32) = some net := by simp [short]
  rw [Address.companions, kept]
  rfl

variable {allowed : InterfaceAddress .v4 → Prop} {group : InterfaceAddress .v4}

/-- A group without a prefix may stand on an interface. -/
theorem admissible_of_bare (bare : group.isUnicast = false ∧ group.length = none) :
    Admissible allowed group :=
  ⟨fun single => absurd (single.symm.trans bare.1) (by decide), fun _ => bare.2⟩

/-- A group that may stand on an interface has no prefix. -/
theorem Admissible.net?_eq_none (admissible : Admissible allowed group)
    (other : group.isUnicast = false) : group.net? = none := by
  rw [InterfaceAddress.net?, admissible.group other, Option.map_none]

end Companions

section Kept

variable {allowed : InterfaceAddress .v4 → Prop} {station : Station .v4}

/-- An interface has the groups that its addresses bring, next to what it has had. -/
theorem Brings.mem_addresses {id : InterfaceId} {owed : List (InterfaceAddress .v4)}
    {before after : Station .v4} (brings : Brings id owed before after)
    (present : id ∈ before.interfaces.keys) {entry : InterfaceAddress .v4} :
    entry ∈ (after.interfaces.at id).addresses ↔ entry ∈ (before.interfaces.at id).addresses ∨
      ∃ own ∈ owed, entry ∈ own.address.companions own.net? := by
  rw [brings.addresses present, InterfaceAddress.mem_foldl_joining, List.mem_flatMap]

/-- Once the addresses of an interface have brought what goes with them, a station with those routes is as it
should be. -/
theorem Brings.kept {id : InterfaceId} {owed : List (InterfaceAddress .v4)} {before after : Station .v4}
    (brings : Brings id owed before after) (present : id ∈ before.interfaces.keys)
    (routed : after.Routed)
    (admissible : ∀ other ∈ before.node.attached, ∀ entry ∈ (before.interfaces.at other).addresses,
      Admissible allowed entry)
    (broadcast : ∀ other ∈ before.node.attached, ∀ entry ∈ before.unicastOn other, ∀ net,
      entry.net? = some net → net.length < 32 →
        .broadcast net.directedBroadcast ∈ (before.interfaces.at other).addresses ∨
          other = id ∧ entry ∈ owed) : Kept allowed after := by
  have differs := brings.differs
  refine ⟨routed, ?_, ?_⟩
  · intro other among entry member
    rw [differs.attached] at among
    -- A group that has come is admissible, and what has been there was.
    by_cases same : other = id
    · subst same
      rcases (brings.mem_addresses present).mp member with there | ⟨_, _, group⟩
      · exact admissible other among entry there
      · exact admissible_of_bare (Address.companions_bare group)
    · rw [differs.elsewhere other same] at member
      exact admissible other among entry member
  · intro other among entry member net own short
    rw [differs.attached] at among
    rw [brings.mem_unicastOn present] at member
    -- Either the broadcast address has been there, or the address has brought it.
    rcases broadcast other among entry member net own short with there | ⟨rfl, listed⟩
    · by_cases same : other = id
      · rw [same] at there ⊢
        exact (brings.mem_addresses present).mpr (Or.inl there)
      · rwa [differs.elsewhere other same]
    · exact (brings.mem_addresses present).mpr
        (Or.inr ⟨entry, listed, own ▸ companions_of_short entry.address short ▸ List.mem_cons_self⟩)

/-- A fresh station has no address to go with. -/
theorem Fresh.kept (fresh : Fresh station) : Kept allowed station := by
  have none (id : InterfaceId) : id ∉ station.node.attached := by
    rw [fresh.attached]
    exact List.not_mem_nil
  exact ⟨routed_of_empty fresh.attached fresh.table, fun id among => absurd among (none id),
    fun id among => absurd among (none id)⟩

variable (kept : Kept allowed station) {id : InterfaceId} (node : NodeId)
include kept

/-- An interface that is attached brings what goes with its addresses. -/
theorem Kept.attach (present : id ∈ station.interfaces.keys) (missing : id ∉ station.node.attached)
    (admissible : ∀ entry ∈ (station.interfaces.at id).addresses, Admissible allowed entry) :
    Kept allowed (station.attach node id).1 := by
  obtain ⟨placed, same, attached, _, brings⟩ := station.attach_brings node id
  refine brings.kept (same.keys ▸ present) (kept.toRouted.attach node present missing)
    (fun other among => ?_) fun other among entry member net own short => ?_
  · rw [attached, List.mem_append, List.mem_singleton] at among
    rw [same.addresses]
    rcases among with before | rfl
    · exact kept.admissible other before
    · exact admissible
  · rw [attached, List.mem_append, List.mem_singleton] at among
    rw [unicastOn_of_same (same.addresses other)] at member
    rw [same.addresses]
    -- The addresses of the new interface are those that bring something.
    rcases among with before | rfl
    · exact Or.inl (kept.broadcast other before entry member net own short)
    · exact Or.inr ⟨rfl, member⟩

/-- An interface that is detached takes its routes with it. -/
theorem Kept.detach : Kept allowed (station.detach node id).2.1 := by
  by_cases attached : id ∈ station.node.attached
  case neg => rwa [station.detach_missing node attached]
  obtain ⟨same, left, _⟩ := station.detach_takes node attached
  -- The interfaces that stay attached have the addresses that they had.
  have among {other : InterfaceId} (there : other ∈ (station.detach node id).2.1.node.attached) :
      other ∈ station.node.attached := List.mem_of_mem_erase (left ▸ there)
  refine ⟨kept.toRouted.detach node,
    fun other there => same.addresses other ▸ kept.admissible other (among there), ?_⟩
  intro other there entry member
  rw [unicastOn_of_same (same.addresses other)] at member
  rw [same.addresses]
  exact kept.broadcast other (among there) entry member

/-- An address that is given brings what goes with it. -/
theorem Kept.give (attached : id ∈ station.node.attached) {entry : InterfaceAddress .v4}
    (single : entry.isUnicast = true) (own : allowed entry) :
    Kept allowed (station.addAddress id entry).1 := by
  obtain ⟨given, differs, same, joined, brings⟩ := station.addAddress_brings id single
  have present := kept.known id attached
  have member {other : InterfaceId} {listed : InterfaceAddress .v4} :
      listed ∈ (given.interfaces.at other).addresses ↔
        listed ∈ (station.interfaces.at other).addresses ∨ other = id ∧ listed = entry := by
    by_cases here : other = id
    · simp [here, joined present, InterfaceAddress.mem_joining]
    · simp [here, differs.elsewhere other here]
  refine brings.kept (differs.keys ▸ present) (kept.toRouted.give attached single)
    (fun other among listed there => ?_) fun other among listed there net its short => ?_
  · rcases member.mp there with before | ⟨-, rfl⟩
    · exact kept.admissible other (same ▸ among) listed before
    · exact ⟨fun _ => own, fun group => absurd (single.symm.trans group) (by decide)⟩
  · -- The new entry has yet to bring its broadcast address, and all others have theirs.
    obtain ⟨listing, role⟩ := List.mem_filter.mp there
    rcases member.mp listing with before | ⟨rfl, rfl⟩
    · exact Or.inl (member.mpr (Or.inl (kept.broadcast other (same ▸ among) listed
        (List.mem_filter.mpr ⟨before, role⟩) net its short)))
    · exact Or.inr ⟨rfl, List.mem_cons_self⟩

end Kept

section Take

variable {allowed : InterfaceAddress .v4 → Prop} {station : Station .v4}
  (kept : Kept allowed station) {id : InterfaceId} (attached : id ∈ station.node.attached)
include kept

/-- A station is as it should be after a removal if one entry went and the broadcast addresses that are needed
stayed. -/
theorem Kept.of_removal {after : Station .v4} (differs : DiffersAt id station after)
    {gone : InterfaceAddress .v4} (routed : after.Routed)
    (fewer : (after.interfaces.at id).addresses ⊆ (station.interfaces.at id).addresses)
    (left : after.unicastOn id = (station.unicastOn id).erase gone)
    (broadcast : ∀ entry ∈ (station.unicastOn id).erase gone, ∀ net, entry.net? = some net →
      net.length < 32 →
        .broadcast net.directedBroadcast ∈ (after.interfaces.at id).addresses) :
    Kept allowed after := by
  refine ⟨routed, fun other among entry there => ?_, fun other among entry there => ?_⟩
  · -- No entry has come, at the interface or elsewhere.
    rw [differs.attached] at among
    by_cases here : other = id
    · exact kept.admissible other among entry (here ▸ fewer (here ▸ there))
    · exact kept.admissible other among entry (differs.elsewhere other here ▸ there)
  · by_cases here : other = id
    · rw [here] at there ⊢
      exact broadcast entry (left ▸ there)
    · rw [unicastOn_of_same (differs.elsewhere other here)] at there
      rw [differs.elsewhere other here]
      exact kept.broadcast other (differs.attached ▸ among) entry there

include attached

/-- The unicast addresses of an attached interface are of the set. -/
theorem Kept.allowed_of_mem {entry : InterfaceAddress .v4} (there : entry ∈ station.unicastOn id) :
    entry.isUnicast = true ∧ allowed entry := by
  obtain ⟨listed, single⟩ := List.mem_filter.mp there
  exact ⟨single, (kept.admissible id attached entry listed).own single⟩

/-- An entry with a prefix is a unicast address. -/
theorem Kept.mem_unicastOn_of_net {entry : InterfaceAddress .v4}
    (there : entry ∈ (station.interfaces.at id).addresses) {net : Prefix .v4}
    (own : entry.net? = some net) : entry ∈ station.unicastOn id := by
  refine List.mem_filter.mpr ⟨there, ?_⟩
  -- Groups and broadcast addresses are admitted without a prefix only.
  cases role : entry.isUnicast with
  | true => rfl
  | false =>
    have none := (kept.admissible id attached entry there).net?_eq_none role
    cases none.symm.trans own

variable (apart : Apart allowed) {own gone : InterfaceAddress .v4} (listed : own ∈ station.unicastOn id)
  (found : (station.interfaces.at id).addresses.find? (·.address == own.address) = some gone)
include apart listed found

/-- No broadcast address of a prefix is the first entry for a unicast address. -/
theorem Kept.broadcast_stays {entry : InterfaceAddress .v4} (there : entry ∈ station.unicastOn id)
    {net : Prefix .v4} (its : entry.net? = some net) (short : net.length < 32) :
    .broadcast net.directedBroadcast ∈ (station.interfaces.at id).addresses.erase gone := by
  -- The entry that goes would have the address of this one, against the assumption that they are apart.
  refine (List.mem_erase_of_ne fun same => ?_).mpr
    (kept.broadcast id attached entry there net its short)
  have goes : gone.address = own.address := by simpa using List.find?_some found
  obtain ⟨single, permitted⟩ := kept.allowed_of_mem attached listed
  obtain ⟨role, likewise⟩ := kept.allowed_of_mem attached there
  exact (apart own entry single permitted role likewise net its short).1 (goes ▸ same ▸ rfl)

/-- While its prefix has another address, an entry goes alone. -/
theorem Kept.take_shared (shared : ∀ net, gone.net? = some net →
      ∃ other ∈ (station.interfaces.at id).addresses.erase gone, other.net? = some net) :
    Kept allowed (station.removeAddress id own.address).2.1 ∧
      (station.removeAddress id own.address).2.1.unicastOn id =
        (station.unicastOn id).erase gone := by
  obtain ⟨left, same⟩ := removeAddress_shared (kept.known id attached) found shared
  have differs := station.removeAddress_differs id own.address
  have fewer : ((station.removeAddress id own.address).2.1.interfaces.at id).addresses ⊆
      (station.interfaces.at id).addresses := left ▸ List.erase_subset
  have kin : (station.removeAddress id own.address).2.1.unicastOn id =
      (station.unicastOn id).erase gone := by
    rw [unicastOn, left, unicastOn, List.erase_filter]
  have routed := kept.toRouted.take differs attached kin (same ▸ List.Sublist.refl _) fun route => by
    -- No route is missed, since each one that the entry owed is owed by another one.
    rw [same, iff_self_and]
    rintro - ⟨net, on, -, alone⟩
    obtain ⟨other, stays, its⟩ := shared net on
    have listed := kept.mem_unicastOn_of_net attached (List.mem_of_mem_erase stays) its
    refine alone other ?_ its
    rw [unicastOn, left]
    exact List.mem_filter.mpr ⟨stays, (List.mem_filter.mp listed).2⟩
  refine ⟨kept.of_removal differs routed fewer kin fun entry there net its short => ?_, kin⟩
  exact left ▸ kept.broadcast_stays attached apart listed found (List.mem_of_mem_erase there) its short

omit listed in
/-- What has the broadcast address of a prefix is no unicast address. -/
theorem Kept.unicast_of_eraseP {net : Prefix .v4} (on : gone.net? = some net)
    (short : net.length < 32) : (((station.interfaces.at id).addresses.erase gone).eraseP
      (·.address == net.directedBroadcast)).filter (·.isUnicast) =
        ((station.interfaces.at id).addresses.erase gone).filter (·.isUnicast) := by
  -- Either no entry has the broadcast address, or the first one that has it goes.
  rcases List.exists_or_eq_self_of_eraseP (·.address == net.directedBroadcast)
    ((station.interfaces.at id).addresses.erase gone) with same |
    ⟨group, front, back, -, selected, parts, rest⟩
  · rw [same]
  · have there := kept.mem_unicastOn_of_net attached (List.mem_of_find?_eq_some found) on
    obtain ⟨role, mine⟩ := kept.allowed_of_mem attached there
    -- A unicast address that equals the broadcast address would be in the way of the one that goes.
    have other : ¬ group.isUnicast = true := fun single => by
      have among : group ∈ (station.interfaces.at id).addresses.erase gone :=
        parts ▸ List.mem_append_right front List.mem_cons_self
      obtain ⟨-, permitted⟩ := kept.allowed_of_mem attached
        (List.mem_filter.mpr ⟨List.mem_of_mem_erase among, single⟩)
      exact (apart group gone single permitted role mine net on short).1 (by simpa using selected)
    rw [rest, parts, List.filter_append, List.filter_append, List.filter_cons_of_neg other]

/-- With the last address on a prefix, its broadcast address and its route go, but no other address. -/
theorem Kept.take_last {net : Prefix .v4} (on : gone.net? = some net)
    (last : ∀ other ∈ (station.interfaces.at id).addresses.erase gone, other.net? ≠ some net) :
    Kept allowed (station.removeAddress id own.address).2.1 ∧
      (station.removeAddress id own.address).2.1.unicastOn id =
        (station.unicastOn id).erase gone := by
  obtain ⟨left, table⟩ := removeAddress_last (kept.known id attached) found on last
  have there := kept.mem_unicastOn_of_net attached (List.mem_of_find?_eq_some found) on
  obtain ⟨role, mine⟩ := kept.allowed_of_mem attached there
  have fewer : ((station.removeAddress id own.address).2.1.interfaces.at id).addresses ⊆
      (station.interfaces.at id).addresses := by
    rw [left]
    split
    · exact List.Subset.trans List.eraseP_subset List.erase_subset
    · exact List.erase_subset
  have kin : (station.removeAddress id own.address).2.1.unicastOn id =
      (station.unicastOn id).erase gone := by
    rw [unicastOn, left, unicastOn, List.erase_filter]
    split
    · exact kept.unicast_of_eraseP attached apart found on ‹_›
    · rfl
  -- An address that stays is on another prefix, whose broadcast address is another one.
  have beside {entry : InterfaceAddress .v4} (stays : entry ∈ (station.unicastOn id).erase gone) :
      entry.net? ≠ some net := by
    rw [unicastOn, List.erase_filter] at stays
    exact last entry (List.mem_filter.mp stays).1
  have differs := station.removeAddress_differs id own.address
  have routed := kept.toRouted.take differs attached kin (table ▸ List.filter_sublist) fun route => by
    -- Only the entry that goes has owed the route that goes.
    rw [table, kept.toRouted.mem_without]
    refine and_congr_right fun _ => not_congr ⟨fun same => ?_, ?_⟩
    · exact ⟨net, on, same, fun other stays => beside (kin ▸ stays)⟩
    · rintro ⟨other, its, same, -⟩
      rwa [Option.some_inj.mp (on.symm.trans its)]
  refine ⟨kept.of_removal differs routed fewer kin fun entry stays range its short => ?_, kin⟩
  have there := kept.broadcast_stays attached apart listed found (List.mem_of_mem_erase stays) its short
  rw [left]
  split
  case isFalse => exact there
  -- The broadcast address that goes is none of the address that stays.
  refine (List.mem_eraseP_of_neg fun same => beside stays ?_).mpr there
  obtain ⟨single, permitted⟩ := kept.allowed_of_mem attached (List.mem_of_mem_erase stays)
  have equal := (apart entry gone single permitted role mine net on ‹_›).2 range its short
    (eq_of_beq same)
  rwa [equal] at its

omit found in
/-- A removal keeps a station as it should be, and it takes no other unicast address. -/
theorem Kept.take : Kept allowed (station.removeAddress id own.address).2.1 ∧
    TakesOnly id own.address station (station.removeAddress id own.address).2.1 := by
  -- Some entry is found, since the address is among the unicast ones.
  obtain ⟨gone, found⟩ : ∃ gone, (station.interfaces.at id).addresses.find?
      (·.address == own.address) = some gone := by
    rw [← Option.isSome_iff_exists, List.find?_isSome]
    exact ⟨own, (List.mem_filter.mp listed).1, beq_self_eq_true _⟩
  have left : Kept allowed (station.removeAddress id own.address).2.1 ∧
      (station.removeAddress id own.address).2.1.unicastOn id =
        (station.unicastOn id).erase gone := by
    -- What goes with the entry depends on whether it was the last one on its prefix.
    by_cases last : ∃ net, gone.net? = some net ∧
        ∀ other ∈ (station.interfaces.at id).addresses.erase gone, other.net? ≠ some net
    · obtain ⟨net, on, last⟩ := last
      exact kept.take_last attached apart listed found on last
    · refine kept.take_shared attached apart listed found fun net on => ?_
      exact Classical.byContradiction fun alone =>
        last ⟨net, on, fun other stays same => alone ⟨other, stays, same⟩⟩
  refine ⟨left.1, ⟨gone, by simpa using List.find?_some found, left.2⟩, fun other elsewhere => ?_⟩
  exact unicastOn_of_same ((station.removeAddress_differs id own.address).elsewhere other elsewhere)

end Take

section Sufficient

variable {allowed : InterfaceAddress .v4 → Prop} {station : Station .v4}

/-- Changes keep a station as it should be if the addresses leave each other alone. -/
theorem Reached.kept (apart : Apart allowed) {node : NodeId} (reached : Reached allowed node station) :
    Kept allowed station := by
  -- The induction is on the changes, and only a removal asks that the addresses leave each other alone.
  induction reached with
  | fresh start => exact start.kept
  | step before inOrder ih =>
    rename_i station change
    cases change with
    | attach id => exact ih.attach node inOrder.1 inOrder.2.1 inOrder.2.2
    | detach id => exact ih.detach node
    | give id entry => exact ih.give inOrder.1 inOrder.2.1 inOrder.2.2
    | take id address =>
      obtain ⟨attached, own, listed, rfl⟩ := inOrder
      exact (ih.take attached apart listed).1

/-- A station as it should be is consistent. -/
theorem Kept.consistent (kept : Kept allowed station) : station.Consistent :=
  ⟨kept.toRouted.isConnected, kept.broadcast⟩

end Sufficient

end NetworkLayer.Station
