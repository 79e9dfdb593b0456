import NetworkLayer.Proofs.Addressing.Changes

/-!
The groups among the addresses of an IPv6 interface. Main statement: joining and leaving keep one entry for
the solicited-node group of each unicast address, and no other such entry, however many addresses share it.
-/

namespace NetworkLayer

namespace Address

/-- A solicited-node group is a group. -/
theorem solicitedNode_isMulticast (address : Address .v6) :
    address.solicitedNode.isMulticast = true := by
  -- The group fills in the low bits under `ff02::`.
  simp only [isMulticast, solicitedNode, ofNat, Family.size, Family.bits, Nat.shiftLeft_eq,
    Nat.shiftRight_eq_div_pow, beq_iff_eq]
  omega

/-- The solicited-node group of such a group is the group itself. -/
theorem solicitedNode_idem (address : Address .v6) :
    address.solicitedNode.solicitedNode = address.solicitedNode := by
  -- The low 24 bits are those of the address.
  simp only [solicitedNode, ofNat, Family.size, Family.bits, Nat.shiftLeft_eq, Address.mk.injEq]
  omega

/-- The groups that every node of a link belongs to. -/
def everyNode : List (Address .v6) := [allNodesInterface, allNodesLink]

/-- The group of every node is a group. -/
theorem everyNode_isMulticast {group : Address .v6} (every : group ∈ everyNode) :
    group.isMulticast = true := by
  simp only [everyNode, List.mem_cons, List.not_mem_nil, or_false] at every
  rcases every with rfl | rfl <;> decide

/-- No address maps to a group of every node. -/
theorem solicitedNode_not_everyNode (address : Address .v6) :
    address.solicitedNode ∉ everyNode := by
  -- The 24 low bits of the group stand behind `1:ff`, those of every node are one.
  simp only [everyNode, List.mem_cons, List.not_mem_nil, or_false, solicitedNode, allNodesInterface,
    allNodesLink, ofNat, Family.size, Family.bits, Nat.shiftLeft_eq, Address.mk.injEq]
  omega

end Address

namespace InterfaceAddress

/-- Whether a unicast address of the list maps to a solicited-node group. -/
def Solicits (addresses : List (InterfaceAddress .v6)) (group : Address .v6) : Prop :=
  ∃ own ∈ addresses, own.isUnicast = true ∧ own.address.solicitedNode = group

/-- Addresses whose groups are those of unicast addresses or of every node. -/
structure Tidy (addresses : List (InterfaceAddress .v6)) : Prop where
  /-- No group is there twice. -/
  once : (addresses.filter (!·.isUnicast)).Nodup
  origin : ∀ entry ∈ addresses, entry.isUnicast = false → ∃ group, entry = .multicast group ∧
    (group ∈ Address.everyNode ∨ Solicits addresses group)
  /-- No group stands in front of a unicast entry for its address. -/
  foremost : addresses.Pairwise fun front back =>
    front.isUnicast = false → back.isUnicast = true → front.address ≠ back.address

/-- Tidy addresses with the solicited-node group of each of them. -/
structure Orderly (addresses : List (InterfaceAddress .v6)) : Prop
    extends Tidy addresses where
  joined : ∀ own ∈ addresses, own.isUnicast = true →
    .multicast own.address.solicitedNode ∈ addresses

variable {addresses rest : List (InterfaceAddress .v6)}

/-- More addresses map to more groups. -/
theorem Solicits.mono (subset : addresses ⊆ rest) {group : Address .v6}
    (solicits : Solicits addresses group) : Solicits rest group := by
  obtain ⟨own, there, single, mapped⟩ := solicits
  exact ⟨own, subset there, single, mapped⟩

/-- The groups on an interface are group addresses. -/
theorem Tidy.isMulticast (tidy : Tidy addresses) {entry : InterfaceAddress .v6}
    (there : entry ∈ addresses) (group : entry.isUnicast = false) :
    entry.address.isMulticast = true := by
  obtain ⟨named, rfl, every | ⟨own, _, _, rfl⟩⟩ := tidy.origin entry there group
  · exact Address.everyNode_isMulticast every
  · exact own.address.solicitedNode_isMulticast

/-- A group on an interface has no prefix. -/
theorem Tidy.net?_eq_none (tidy : Tidy addresses) {entry : InterfaceAddress .v6}
    (there : entry ∈ addresses) (group : entry.isUnicast = false) : entry.net? = none := by
  obtain ⟨named, rfl, _⟩ := tidy.origin entry there group
  rfl

/-- Unicast addresses alone are tidy. -/
theorem tidy_of_unicast (single : ∀ entry ∈ addresses, entry.isUnicast = true) :
    Tidy addresses := by
  have none : addresses.filter (!·.isUnicast) = [] := by simpa using single
  refine ⟨by simp [none], fun entry there group => ?_, ?_⟩
  · rw [single entry there] at group
    cases group
  · -- There is no group that could stand in front.
    refine List.pairwise_of_forall_mem_list fun front member back _ group => ?_
    rw [single front member] at group
    cases group

section Join

variable {entry : InterfaceAddress .v6}

/-- A tidy list stays so with an entry at the end that is a new group or a unicast address. -/
theorem Tidy.append (tidy : Tidy addresses) (fresh : entry ∉ addresses)
    (origin : entry.isUnicast = false → ∃ group, entry = .multicast group ∧
      (group ∈ Address.everyNode ∨ Solicits addresses group))
    (single : entry.isUnicast = true → entry.address.isMulticast = false) :
    Tidy (addresses ++ [entry]) := by
  have more : addresses ⊆ addresses ++ [entry] := List.subset_append_left ..
  refine ⟨?_, fun other there group => ?_, ?_⟩
  · -- The new entry is not among the groups that are there.
    rw [List.filter_append]
    cases role : entry.isUnicast with
    | true => simpa [role] using tidy.once
    | false =>
      rw [List.filter_cons_of_pos (by simp [role]), List.filter_nil, List.nodup_append]
      refine ⟨tidy.once, List.pairwise_singleton .., fun other there last among same => ?_⟩
      rw [List.mem_singleton.mp among] at same
      exact fresh (same ▸ (List.mem_filter.mp there).1)
  · rw [List.mem_append, List.mem_singleton] at there
    rcases there with before | rfl
    · obtain ⟨named, shape, every | solicits⟩ := tidy.origin other before group
      · exact ⟨named, shape, Or.inl every⟩
      · exact ⟨named, shape, Or.inr (solicits.mono more)⟩
    · obtain ⟨named, shape, every | solicits⟩ := origin group
      · exact ⟨named, shape, Or.inl every⟩
      · exact ⟨named, shape, Or.inr (solicits.mono more)⟩
  · refine List.pairwise_append.mpr ⟨tidy.foremost, List.pairwise_singleton .., ?_⟩
    intro front member back last group alone same
    rw [List.mem_singleton.mp last] at alone same
    -- A group in front has a group address, which the unicast entry has not.
    have multicast := tidy.isMulticast member group
    rw [same, single alone] at multicast
    cases multicast

/-- A tidy list stays so when a unicast address joins. -/
theorem Tidy.join_own (tidy : Tidy addresses) (single : entry.isUnicast = true)
    (node : entry.address.isMulticast = false) : Tidy (joining addresses entry) := by
  rw [joining]
  -- A unicast address is no group, so the groups stay as they are.
  split
  · exact tidy
  · rename_i missing
    refine tidy.append (by simpa using missing) (fun group => ?_) fun _ => node
    rw [single] at group
    cases group

/-- A tidy list stays so when a group of one of its addresses or of every node joins. -/
theorem Tidy.join_group (tidy : Tidy addresses) {group : Address .v6}
    (origin : group ∈ Address.everyNode ∨ Solicits addresses group) :
    Tidy (joining addresses (.multicast group)) := by
  rw [joining]
  split
  · exact tidy
  · rename_i missing
    -- A group is no unicast address, so it calls for no group of its own.
    refine tidy.append (by simpa using missing) (fun _ => ⟨group, rfl, origin⟩) fun single => ?_
    cases single

/-- What comes with an IPv6 address is its solicited-node group and the groups of every node. -/
theorem companions_v6 (address : Address .v6) (net : Option (Prefix .v6)) :
    address.companions net =
      (address.solicitedNode :: Address.everyNode).map InterfaceAddress.multicast := rfl

/-- The list is orderly once the addresses that lack a group have brought what goes with them. -/
theorem Tidy.bring (tidy : Tidy addresses) {owed : List (InterfaceAddress .v6)}
    (own : ∀ entry ∈ owed, entry ∈ addresses ∧ entry.isUnicast = true)
    (others : ∀ entry ∈ addresses, entry.isUnicast = true →
      entry ∈ owed ∨ .multicast entry.address.solicitedNode ∈ addresses) :
    Orderly ((owed.flatMap fun entry => entry.address.companions entry.net?).foldl joining
      addresses) := by
  -- Each entry brings its solicited-node group and the groups of every node.
  have whole : ∀ group ∈ owed.flatMap fun entry => entry.address.companions entry.net?,
      ∃ named, group = .multicast named ∧ (named ∈ Address.everyNode ∨ Solicits addresses named) := by
    intro group member
    obtain ⟨entry, listed, member⟩ := List.mem_flatMap.mp member
    rw [companions_v6, List.mem_map] at member
    obtain ⟨named, among, rfl⟩ := member
    refine ⟨named, rfl, ?_⟩
    rcases List.mem_cons.mp among with rfl | every
    · exact Or.inr ⟨entry, (own entry listed).1, (own entry listed).2, rfl⟩
    · exact Or.inl every
  -- While groups join, the unicast addresses stay where they are.
  have joined := List.foldlRecOn (motive := fun after => Tidy after ∧ addresses ⊆ after)
    (owed.flatMap fun entry => entry.address.companions entry.net?) joining ⟨tidy, fun _ => id⟩
    fun after kept group member => by
      obtain ⟨named, rfl, origin⟩ := whole group member
      exact ⟨kept.1.join_group (origin.imp_right fun solicits => solicits.mono kept.2),
        fun _ there => (mem_joining ..).mpr (Or.inl (kept.2 there))⟩
  refine ⟨joined.1, fun entry there single => ?_⟩
  rw [mem_foldl_joining] at there ⊢
  rcases there with before | group
  · -- An address that lacked its group is one of those that brought something.
    rcases others entry before single with listed | group
    · refine Or.inr (List.mem_flatMap.mpr ⟨entry, listed, ?_⟩)
      rw [companions_v6]
      exact List.mem_cons_self
    · exact Or.inl group
  · obtain ⟨named, rfl, _⟩ := whole entry group
    cases single

end Join

/-- The solicited-node group of an address is there exactly if some unicast address maps to it. -/
theorem Orderly.mem_iff_solicits (orderly : Orderly addresses) (address : Address .v6) :
    .multicast address.solicitedNode ∈ addresses ↔ Solicits addresses address.solicitedNode := by
  constructor
  · intro there
    obtain ⟨group, shape, every | solicits⟩ := orderly.origin _ there rfl
    -- The groups of every node are other ones.
    · have same : address.solicitedNode = group := congrArg InterfaceAddress.address shape
      exact absurd (same ▸ every) address.solicitedNode_not_everyNode
    · have same : address.solicitedNode = group := congrArg InterfaceAddress.address shape
      exact same ▸ solicits
  · rintro ⟨own, there, single, mapped⟩
    exact mapped ▸ orderly.joined own there single

section Leave

/-- The addresses after the first entry for an address has gone: its group stays only for another unicast
address that maps to it. -/
def leaving (addresses : List (InterfaceAddress .v6)) (address : Address .v6) :
    List (InterfaceAddress .v6) :=
  let rest := addresses.eraseP (·.address == address)
  if rest.any fun entry => entry.isUnicast && entry.address.solicitedNode == address.solicitedNode
  then rest
  else rest.eraseP (·.address == address.solicitedNode)

variable (orderly : Orderly addresses) {own : InterfaceAddress .v6} (listed : own ∈ addresses)
  (single : own.isUnicast = true)
include orderly listed single

/-- The first entry for a unicast address is a unicast one. -/
theorem Orderly.first_unicast : ∃ gone, gone ∈ addresses ∧ gone.isUnicast = true ∧
    gone.address = own.address ∧
    addresses.find? (·.address == own.address) = some gone := by
  obtain ⟨gone, found⟩ : ∃ gone, addresses.find? (·.address == own.address) = some gone := by
    rw [← Option.isSome_iff_exists, List.find?_isSome]
    exact ⟨own, listed, beq_self_eq_true _⟩
  have same : gone.address = own.address := by simpa using List.find?_some found
  refine ⟨gone, List.mem_of_find?_eq_some found, ?_, same, found⟩
  -- Whatever stands in front of the entry that is found has another address.
  obtain ⟨_, front, back, split, skipped⟩ := List.find?_eq_some_iff_append.mp found
  cases role : gone.isUnicast with
  | true => rfl
  | false =>
    -- The unicast address would stand behind a group with its address.
    have apart := orderly.foremost
    rw [split, List.mem_append, List.mem_cons] at listed
    rw [split] at apart
    rcases listed with before | rfl | behind
    · simpa using skipped own before
    · rw [single] at role
      cases role
    · have differ := (List.pairwise_cons.mp (List.pairwise_append.mp apart).2.1).1 own behind role
        single
      exact absurd same differ

end Leave

section Shrink

variable (orderly : Orderly addresses) {gone : InterfaceAddress .v6} (single : gone.isUnicast = true)
include orderly single

/-- What is left is tidy while some unicast address still maps to each group that is left. -/
theorem Orderly.sublist (fewer : rest.Sublist addresses)
    (lacking : ∀ own ∈ addresses, own.isUnicast = true → own ∈ rest ∨ own = gone)
    (groups : ∀ group, .multicast group ∈ rest → group = gone.address.solicitedNode →
      Solicits rest group)
    (joined : ∀ own ∈ rest, own.isUnicast = true → .multicast own.address.solicitedNode ∈ rest) :
    Orderly rest := by
  refine ⟨⟨orderly.once.sublist (fewer.filter _), fun entry there group => ?_,
    orderly.foremost.sublist fewer⟩, joined⟩
  obtain ⟨named, rfl, every | ⟨own, listed, alone, mapped⟩⟩ :=
    orderly.origin entry (fewer.subset there) group
  · exact ⟨named, rfl, Or.inl every⟩
  · refine ⟨named, rfl, Or.inr ?_⟩
    -- The address that the group came with is still there, or it is the one that went.
    rcases lacking own listed alone with stays | rfl
    · exact ⟨own, stays, alone, mapped⟩
    · exact groups named there mapped.symm

/-- The list stays orderly when an address goes whose group another one needs. -/
theorem Orderly.erase_shared
    (shared : Solicits (addresses.erase gone) gone.address.solicitedNode) :
    Orderly (addresses.erase gone) := by
  refine orderly.sublist single List.erase_sublist (fun own there _ => ?_)
    (fun group _ same => same ▸ shared) fun own there alone => ?_
  · -- Only the address that goes may have had the group to itself.
    by_cases same : own = gone
    · exact Or.inr same
    · exact Or.inl ((List.mem_erase_of_ne same).mpr there)
  · -- The group of an address is no unicast entry, so it did not go.
    refine (List.mem_erase_of_ne fun same => ?_).mpr
      (orderly.joined own (List.mem_of_mem_erase there) alone)
    rw [← same] at single
    cases single

/-- The first entry for the group of an address is the group, when no other address maps to it. -/
theorem Orderly.first_group (listed : gone ∈ addresses)
    (alone : ¬ Solicits (addresses.erase gone) gone.address.solicitedNode) :
    (addresses.erase gone).eraseP (·.address == gone.address.solicitedNode) =
      (addresses.erase gone).erase (.multicast gone.address.solicitedNode) := by
  refine eraseP_eq_erase ?_
  have foreign : InterfaceAddress.multicast gone.address.solicitedNode ≠ gone := fun same => by
    rw [← same] at single
    cases single
  -- The group is there, and it is not the entry that went first.
  have there := (List.mem_erase_of_ne foreign).mpr (orderly.joined gone listed single)
  obtain ⟨first, found⟩ : ∃ first, (addresses.erase gone).find?
      (·.address == gone.address.solicitedNode) = some first := by
    rw [← Option.isSome_iff_exists, List.find?_isSome]
    exact ⟨_, there, beq_self_eq_true _⟩
  have same : first.address = gone.address.solicitedNode := by simpa using List.find?_some found
  have among := List.mem_of_find?_eq_some found
  rw [found, Option.some_inj]
  cases role : first.isUnicast with
  | true =>
    -- A unicast entry for the group would map to it.
    refine absurd ⟨first, among, role, ?_⟩ alone
    rw [same, Address.solicitedNode_idem]
  | false =>
    obtain ⟨group, rfl, _⟩ := orderly.origin first (List.mem_of_mem_erase among) role
    exact congrArg InterfaceAddress.multicast same

/-- The list stays orderly when an address goes together with its group. -/
theorem Orderly.erase_last
    (alone : ¬ Solicits (addresses.erase gone) gone.address.solicitedNode) :
    Orderly ((addresses.erase gone).erase (.multicast gone.address.solicitedNode)) := by
  have fewer : ((addresses.erase gone).erase (.multicast gone.address.solicitedNode)).Sublist
      addresses := List.erase_sublist.trans List.erase_sublist
  have stays {entry : InterfaceAddress .v6} (other : entry ≠ .multicast gone.address.solicitedNode)
      (apart : entry ≠ gone) (there : entry ∈ addresses) :
      entry ∈ (addresses.erase gone).erase (.multicast gone.address.solicitedNode) :=
    (List.mem_erase_of_ne other).mpr ((List.mem_erase_of_ne apart).mpr there)
  -- A unicast address is no group, so taking a group takes none of them.
  have own_ne {entry : InterfaceAddress .v6} (alone : entry.isUnicast = true)
      (group : Address .v6) : entry ≠ .multicast group := fun same => by
    rw [same] at alone
    cases alone
  refine orderly.sublist single fewer (fun own there alone => ?_) (fun group there same => ?_)
    fun own there unicast => ?_
  · by_cases same : own = gone
    · exact Or.inr same
    · exact Or.inl (stays (own_ne alone _) same there)
  · -- The group was there once, and it went.
    subst same
    have grouped : InterfaceAddress.multicast gone.address.solicitedNode ∈
        ((addresses.erase gone).erase (.multicast gone.address.solicitedNode)).filter
          (!·.isUnicast) := List.mem_filter.mpr ⟨there, rfl⟩
    rw [← List.erase_filter] at grouped
    have once := orderly.once.sublist ((List.erase_sublist (a := gone)).filter (!·.isUnicast))
    exact absurd grouped once.not_mem_erase
  · -- An address that stays has its group, unless that is the one that goes or no group at all.
    have before := List.mem_of_mem_erase there
    refine stays (fun same => ?_) (fun same => ?_)
      (orderly.joined own (List.mem_of_mem_erase before) unicast)
    · exact alone ⟨own, before, unicast, congrArg InterfaceAddress.address same⟩
    · exact own_ne single _ same.symm

end Shrink

/--
When a unicast address leaves an orderly list, one unicast entry for it goes and no other one, and the list
stays orderly.
-/
theorem Orderly.leave (orderly : Orderly addresses) {own : InterfaceAddress .v6}
    (listed : own ∈ addresses) (single : own.isUnicast = true) :
    ∃ gone, addresses.find? (·.address == own.address) = some gone ∧ gone.address = own.address ∧
      Orderly (leaving addresses own.address) ∧
      (leaving addresses own.address).filter (·.isUnicast) =
        (addresses.filter (·.isUnicast)).erase gone := by
  obtain ⟨gone, there, unicast, same, found⟩ := orderly.first_unicast listed single
  refine ⟨gone, found, same, ?_⟩
  have used : ((addresses.erase gone).any fun entry =>
      entry.isUnicast && entry.address.solicitedNode == own.address.solicitedNode) = true ↔
      Solicits (addresses.erase gone) gone.address.solicitedNode := by
    simp [Solicits, same]
  rw [leaving, eraseP_eq_erase found]
  split
  · rename_i shared
    exact ⟨orderly.erase_shared unicast (used.mp shared), List.erase_filter.symm⟩
  · rename_i last
    rw [used] at last
    rw [← same, orderly.first_group unicast there last]
    refine ⟨orderly.erase_last unicast last, ?_⟩
    -- The group is no unicast entry, so the filter does not see it go.
    have foreign : InterfaceAddress.multicast gone.address.solicitedNode ∉
        (addresses.erase gone).filter (·.isUnicast) := by simp [InterfaceAddress.multicast, isUnicast]
    rw [← List.erase_filter, List.erase_of_not_mem foreign, List.erase_filter]

end InterfaceAddress

end NetworkLayer
