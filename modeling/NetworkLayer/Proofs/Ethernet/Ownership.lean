import NetworkLayer.Proofs.Addressing.Changes
import NetworkLayer.Proofs.Resolution.Exchange

/-!
The addresses of an Ethernet interface and those that its resolver answers for. Main statement: the two stay
equal over every course of changes exactly if no address may be configured with two different entries.
-/

namespace NetworkLayer

/-- Erasing the first selected item erases them all exactly if there is at most one. -/
theorem eraseP_eq_filter_iff {Item : Type} (selected : Item → Bool) (items : List Item) :
    items.eraseP selected = items.filter (!selected ·) ↔ items.countP selected ≤ 1 := by
  -- The induction is on the items, where only a selected one makes a difference.
  induction items with
  | nil => simp
  | cons item rest ih =>
    cases chosen : selected item with
    | false => simp [chosen, ih]
    | true =>
      -- The item goes either way, so no other one may be selected.
      simp only [List.eraseP_cons_of_pos chosen, List.filter_cons, chosen, Bool.not_true,
        Bool.false_eq_true, if_false, List.countP_cons, if_true]
      constructor
      · intro same
        have kept : ∀ other ∈ rest, (!selected other) = true := by
          rw [same]
          intro other member
          exact (List.mem_filter.mp member).2
        have none : rest.countP selected = 0 := by
          rw [List.countP_eq_zero]
          intro other member
          simpa using kept other member
        omega
      · intro alone
        have none : rest.countP selected = 0 := by omega
        rw [List.countP_eq_zero] at none
        refine (List.filter_eq_self.mpr fun other member => ?_).symm
        simpa using none other member

variable {family : Family}

/-- Different entries of one list are for different addresses, if no address has two entries. -/
theorem InterfaceAddress.countP_le_one {addresses : List (InterfaceAddress family)}
    (distinct : addresses.Nodup) (single : ∀ one ∈ addresses, ∀ other ∈ addresses,
      one.address = other.address → one = other) (address : Address family) :
    addresses.countP (·.address == address) ≤ 1 := by
  -- Counting entries for an address is counting the address among those of the entries.
  have apart : (addresses.map (·.address)).Nodup := by
    refine List.pairwise_map.mpr (distinct.imp_of_mem fun one other differ same => ?_)
    exact differ (single _ one _ other same)
  have counted : addresses.countP (·.address == address) =
      (addresses.map (·.address)).count address := by
    rw [List.count, List.countP_map]
    rfl
  rw [counted]
  exact List.nodup_iff_count.mp apart address

namespace Interface

/-- What is done to the addresses of an interface. -/
inductive Readdressing (family : Family)
  | join (entry : InterfaceAddress family)
  | leave (address : Address family)

/-- The interface after a change of its addresses. -/
def readdressed (interface : Interface family) : Readdressing family → Interface family
  | .join entry => interface.addAddress entry
  | .leave address => interface.removeAddress address

/-- The addresses that the resolver of the interface has, if there is one. -/
def resolving? (interface : Interface family) : Option (List (InterfaceAddress family)) :=
  interface.adapter?.map (·.resolver.addresses)

/-- A question that another station puts is answered exactly for the unicast addresses of the interface. -/
def AnswersOwn (interface : Interface family) : Prop :=
  ∀ adapter, interface.adapter? = some adapter → ∀ asker target source,
    asker ≠ adapter.mac → (family = .v6 → source ≠ .unspecified) →
      ((adapter.reply? (ResolutionTraffic.solicitation asker target source)).isSome ↔
        ∃ entry ∈ interface.addresses, entry.isUnicast = true ∧ entry.address = target)

/-- An Ethernet interface that answers for the unicast addresses that it has. -/
structure Agrees (interface : Interface family) : Prop where
  /-- The resolver has the addresses of the interface. -/
  addresses : interface.resolving? = some interface.addresses
  /-- The unicast ones among them are answered for, and no others. -/
  answers : interface.AnswersOwn

variable (interface : Interface family)

/-- A change of the resolver reaches the adapter that the interface has. -/
theorem withResolver_adapter? (change : Resolver family → Resolver family) :
    (interface.withResolver change).adapter? = interface.adapter?.map fun adapter =>
      { adapter with resolver := change adapter.resolver } := by
  unfold withResolver withAdapter adapter?
  -- Only an Ethernet interface has a resolver to change.
  cases own : interface.medium <;> simp [own]

/-- A change of the resolver reaches the addresses that it has. -/
theorem withResolver_resolving? (change : Resolver family → Resolver family) :
    (interface.withResolver change).resolving? =
      interface.adapter?.map fun adapter => (change adapter.resolver).addresses := by
  rw [resolving?, withResolver_adapter?, Option.map_map]
  rfl

/-- The adapter of an interface that gets an address. -/
theorem addAddress_adapter? (entry : InterfaceAddress family) :
    (interface.addAddress entry).adapter? = (interface.withResolver (·.addAddress entry)).adapter? := by
  unfold addAddress
  dsimp only
  split <;> rfl

/-- A change of addresses leaves the adapter its link-layer address. -/
theorem readdressed_mac (change : Readdressing family) :
    (interface.readdressed change).adapter?.map Adapter.mac = interface.adapter?.map Adapter.mac := by
  cases change with
  | join entry =>
    rw [readdressed, addAddress_adapter?, withResolver_adapter?, Option.map_map]
    -- Whether the resolver takes the address or not, only its own list changes.
    congr 1
    funext adapter
    simp only [Function.comp, Adapter.mac, Resolver.addAddress]
    split <;> rfl
  | leave address =>
    show (interface.withResolver (·.removeAddress address)).adapter?.map _ = _
    rw [withResolver_adapter?, Option.map_map]
    rfl

/-- An address joins those of the resolver as it joins those of the interface. -/
theorem addAddress_resolving? (entry : InterfaceAddress family) :
    (interface.addAddress entry).resolving? =
      interface.resolving?.map fun addresses => InterfaceAddress.joining addresses entry := by
  rw [resolving?, addAddress_adapter?, withResolver_adapter?, resolving?, Option.map_map, Option.map_map]
  congr 1
  funext adapter
  -- The resolver looks for the entry in its own list.
  simp only [Function.comp, Resolver.addAddress, InterfaceAddress.joining]
  split <;> rfl

/-- The resolver loses every entry for an address that the interface loses one of. -/
theorem removeAddress_resolving? (address : Address family) :
    (interface.removeAddress address).resolving? =
      interface.resolving?.map fun addresses => addresses.filter (!·.address == address) := by
  have changed : (interface.removeAddress address).resolving? =
      (interface.withResolver (·.removeAddress address)).resolving? := rfl
  rw [changed, withResolver_resolving?, resolving?, Option.map_map]
  rfl

/-- With the addresses of the interface the resolver answers for the unicast ones among them. -/
theorem agrees_of_addresses (same : interface.resolving? = some interface.addresses) :
    interface.Agrees := by
  refine ⟨same, fun adapter there asker target source apart specified => ?_⟩
  rw [resolving?, there, Option.map_some, Option.some_inj] at same
  rw [adapter.isSome_reply?_solicitation apart specified, same]

variable {interface}

/-- An address that joins an agreeing interface joins its resolver too. -/
theorem Agrees.join (agrees : interface.Agrees) (entry : InterfaceAddress family) :
    (interface.addAddress entry).Agrees := by
  refine agrees_of_addresses _ ?_
  rw [addAddress_resolving?, agrees.addresses, addAddress_joining]
  rfl

/-- A removal keeps an interface and its resolver equal exactly if there is one entry at most to remove. -/
theorem Agrees.leave_iff (agrees : interface.Agrees) (address : Address family) :
    (interface.removeAddress address).Agrees ↔
      interface.addresses.countP (·.address == address) ≤ 1 := by
  -- The resolver loses every entry for the address, and the interface only the first.
  have left : (interface.removeAddress address).resolving? =
      some (interface.addresses.filter (!·.address == address)) := by
    rw [removeAddress_resolving?, agrees.addresses]
    rfl
  rw [← eraseP_eq_filter_iff, ← removeAddress_addresses]
  constructor
  · intro still
    have same := still.addresses
    rw [left, Option.some_inj] at same
    exact same.symm
  · intro same
    refine agrees_of_addresses _ ?_
    rw [left, same]

/-- An interface on a port before it is given an address. -/
def opened (name : String) (settings : AdapterSettings) (port : PortId) (registry : RegistryId) :
    Interface family :=
  .onPort name (.create settings port registry)

section Course

variable {name : String} {settings : AdapterSettings} {port : PortId} {registry : RegistryId}

/-- An interface that was given two entries has both, in the order in which they came. -/
theorem opened_join_join {one other : InterfaceAddress family} (differ : one ≠ other) :
    (((opened name settings port registry).addAddress one).addAddress other).addresses =
      [one, other] := by
  rw [addAddress_joining, addAddress_joining]
  simp [opened, onPort, InterfaceAddress.joining, differ.symm]

/-- An interface without addresses agrees with its resolver. -/
theorem opened_agrees : (opened name settings port registry : Interface family).Agrees :=
  agrees_of_addresses _ rfl

variable {allowed : InterfaceAddress family → Prop}

/-- An interface with entries of a set, each once. -/
structure Holds (allowed : InterfaceAddress family → Prop) (interface : Interface family) : Prop where
  distinct : interface.addresses.Nodup
  allowed : ∀ entry ∈ interface.addresses, allowed entry

/-- A change keeps the entries of an interface in the set, and each of them single. -/
theorem Holds.readdressed {interface : Interface family} (holds : Holds allowed interface)
    {change : Readdressing family} (permitted : ∀ entry, change = .join entry → allowed entry) :
    Holds allowed (interface.readdressed change) := by
  cases change with
  | join entry =>
    -- An entry that joins is permitted, and it joins only if it is not there.
    refine ⟨?_, fun other there => ?_⟩
    · rw [Interface.readdressed, addAddress_joining]
      exact InterfaceAddress.nodup_joining _ holds.distinct
    · rw [Interface.readdressed, addAddress_joining, InterfaceAddress.mem_joining] at there
      rcases there with before | rfl
      · exact holds.allowed other before
      · exact permitted other rfl
  | leave address =>
    -- A removal leaves some of the entries, in order.
    have fewer : (interface.removeAddress address).addresses.Sublist interface.addresses := by
      rw [removeAddress_addresses]
      exact List.eraseP_sublist
    exact ⟨holds.distinct.sublist fewer, fun entry there => holds.allowed entry (fewer.subset there)⟩

/-- What every change keeps, if no address has two entries: the interface agrees with its resolver. -/
structure Kept (allowed : InterfaceAddress family → Prop) (interface : Interface family) : Prop
    extends Holds allowed interface where
  agrees : interface.Agrees

variable (single : ∀ one other, allowed one → allowed other → one.address = other.address → one = other)
include single

/-- A change keeps the addresses of an interface and those of its resolver equal. -/
theorem Kept.readdressed {interface : Interface family} (kept : Kept allowed interface)
    {change : Readdressing family} (permitted : ∀ entry, change = .join entry → allowed entry) :
    Kept allowed (interface.readdressed change) := by
  refine ⟨kept.toHolds.readdressed permitted, ?_⟩
  -- A departure takes one entry from the interface and all from the resolver, which is the same where addresses
  -- are distinct.
  cases change with
  | join entry => exact kept.agrees.join entry
  | leave address =>
    refine (kept.agrees.leave_iff address).mpr ?_
    exact InterfaceAddress.countP_le_one kept.distinct (fun one there other among =>
      single one other (kept.allowed one there) (kept.allowed other among)) address

/-- Changes keep the addresses of an interface and those of its resolver equal. -/
theorem kept_of_course (course : List (Readdressing family))
    (permitted : ∀ entry, .join entry ∈ course → allowed entry) :
    Kept allowed (course.foldl readdressed (opened name settings port registry)) := by
  -- The induction is on the changes, the last one first.
  refine List.foldlRecOn (motive := Kept allowed) course readdressed
    ⟨⟨List.nodup_nil, nofun⟩, opened_agrees⟩ fun interface kept change member => ?_
  exact kept.readdressed single fun entry same => permitted entry (same ▸ member)

end Course

/--
Over every course of changes an Ethernet interface and its resolver have the same addresses, and questions
are answered for its unicast ones, if and only if no address may be given two different entries.

The interface loses the first entry for an address and the resolver all of them, so an address with two
prefix lengths or two roles is still there after a removal, but no question about it is answered.
-/
theorem agrees_iff_single (name : String) (settings : AdapterSettings) (port : PortId)
    (registry : RegistryId) (allowed : InterfaceAddress family → Prop) :
    (∀ course : List (Readdressing family), (∀ entry, .join entry ∈ course → allowed entry) →
      (course.foldl readdressed (opened name settings port registry)).Agrees) ↔
    ∀ one other, allowed one → allowed other → one.address = other.address → one = other := by
  constructor
  · intro always one other permitted likewise same
    refine Classical.byContradiction fun differ => ?_
    -- With both entries in place, a removal of their address takes one of them from the interface.
    let both : Interface family :=
      [Readdressing.join one, .join other].foldl readdressed (opened name settings port registry)
    have given : ∀ entry, Readdressing.join entry ∈
        [Readdressing.join one, .join other] → allowed entry := by
      intro entry member
      simp only [List.mem_cons, Readdressing.join.injEq, List.not_mem_nil, or_false] at member
      rcases member with rfl | rfl
      · exact permitted
      · exact likewise
    -- Up to the removal nothing has parted the two.
    have agrees : both.Agrees := always _ given
    have left : (both.removeAddress one.address).Agrees := by
      refine always [.join one, .join other, .leave one.address] fun entry member => given entry ?_
      simpa using member
    have listed : both.addresses = [one, other] := opened_join_join differ
    have few := (agrees.leave_iff one.address).mp left
    simp [listed, same] at few
  · intro single course permitted
    exact (kept_of_course single course permitted).agrees

/-- The unicast addresses with the length 24. -/
def ofLength24 (entry : InterfaceAddress .v4) : Prop :=
  ∃ address, entry = .unicast address 24

/-- The port of a host with a fixed hardware address, before it is given an address. -/
def host : Interface .v4 :=
  opened "eth0" ⟨.ofNat 0x020000000001, .standard .v4, 256, 64⟩ 0 0

/-- With one prefix length for all unicast addresses an interface always agrees with its resolver. -/
theorem length24_agrees : ∀ course : List (Readdressing .v4),
    (∀ entry, .join entry ∈ course → ofLength24 entry) → (course.foldl readdressed host).Agrees := by
  refine (agrees_iff_single _ _ _ _ ofLength24).mpr ?_
  rintro one other ⟨address, rfl⟩ ⟨range, rfl⟩ same
  rw [show address = range from same]

/-- An Ethernet interface that was given `10.0.0.1/24` and `10.0.0.1/16` and lost `10.0.0.1`. -/
def halfForgotten : Interface .v4 :=
  [Readdressing.join (.unicast (.ofNat 0x0A000001) 24), .join (.unicast (.ofNat 0x0A000001) 16),
    .leave (.ofNat 0x0A000001)].foldl readdressed host

/-- The interface still has `10.0.0.1/16`, its resolver has nothing, and it answers no question about
`10.0.0.1`. -/
theorem address_kept_but_not_answered :
    halfForgotten.addresses = [.unicast (.ofNat 0x0A000001) 16] ∧
      halfForgotten.resolving? = some [] ∧ ¬ halfForgotten.Agrees ∧
      ∀ adapter, halfForgotten.adapter? = some adapter →
        adapter.reply? (ResolutionTraffic.solicitation (.ofNat 0x020000000002)
          (.ofNat 0x0A000001 : Address .v4) (.ofNat 0x0A000002)) = none := by
  have kept : halfForgotten.addresses = [.unicast (.ofNat 0x0A000001) 16] := by decide +kernel
  have forgotten : halfForgotten.resolving? = some [] := by decide +kernel
  refine ⟨kept, forgotten, fun agrees => ?_, fun adapter there => ?_⟩
  · have same := agrees.addresses
    rw [forgotten, kept] at same
    cases same
  · have own : adapter.mac = .ofNat 0x020000000001 := by
      have mac : halfForgotten.adapter?.map Adapter.mac = some (.ofNat 0x020000000001) := by
        decide +kernel
      rw [there, Option.map_some, Option.some_inj] at mac
      exact mac
    have none : adapter.resolver.addresses = [] := by
      rw [resolving?, there, Option.map_some, Option.some_inj] at forgotten
      exact forgotten
    rw [adapter.reply?_solicitation (by rw [own]; decide +kernel) nofun]
    -- Nothing is owned by a resolver without addresses.
    simp [Resolver.owns, none]

end Interface

end NetworkLayer
