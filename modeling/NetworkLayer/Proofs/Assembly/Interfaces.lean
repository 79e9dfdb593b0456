import NetworkLayer.Proofs.Assembly.Stations
import NetworkLayer.Proofs.Assembly.Work
import NetworkLayer.Proofs.Network

/-!
The interfaces of a stack while it is assembled. Each one that has addresses of a family goes by its name
there, lives, and puts the networks on its link into the table of the family.
-/

namespace NetworkLayer

/-- Stacks have the same nodes whatever interfaces they get. -/
@[simp] theorem Stack.withInterface_node (stack : Stack) (family other : Family) (name : String)
    (id : InterfaceId) : (stack.withInterface family name id).node other = stack.node other := by
  cases family <;> cases other <;> rfl

/-- An interface comes last in its family. -/
@[simp] theorem Stack.withInterface_interfaces (stack : Stack) (family : Family) (name : String)
    (id : InterfaceId) :
    (stack.withInterface family name id).interfaces family =
      stack.interfaces family ++ [(name, id)] := by
  cases family <;> rfl

/-- The other family gets no interface. -/
theorem Stack.withInterface_interfaces_of_ne (stack : Stack) {family other : Family}
    (different : other ≠ family) (name : String) (id : InterfaceId) :
    (stack.withInterface family name id).interfaces other = stack.interfaces other := by
  -- Each family has a list of its own in the stack.
  cases family with
  | v4 =>
    cases other with
    | v4 => exact absurd rfl different
    | v6 => rfl
  | v6 =>
    cases other with
    | v4 => rfl
    | v6 => exact absurd rfl different

namespace Assembly

variable {family : Family}

/-- The addresses of a family that texts spell. -/
def spelled (family : Family) (texts : List String) : List (InterfaceAddress family) :=
  texts.filterMap fun text => (InterfaceAddress.parse family text).toOption

/-- What the table of a family leads to with these interfaces attached and these routes in place. -/
def destinations (family : Family) (interfaces : List InterfaceConfig)
    (routes : List StaticRoute) : List (Destination family) :=
  (spelled family (interfaces.flatMap (·.addresses family))).filterMap (·.onLink?) ++
    (routes.filter (·.family == family)).filterMap fun route =>
      (Destination.parse family route.destination).toOption

/-- What holds in a family of a stack that has these interfaces and these routes. -/
structure Holds (family : Family) (interfaces : List InterfaceConfig) (routes : List StaticRoute)
    (stack : Stack) (network : Network) : Prop where
  named : (stack.interfaces family).map Prod.fst =
    (interfaces.filter fun interface => !(interface.addresses family).isEmpty).map (·.name)
  distinct : ∀ entry ∈ stack.interfaces family, ∀ other ∈ stack.interfaces family,
    entry.2 = other.2 → entry = other
  issued : ∀ entry ∈ stack.interfaces family, entry.2 < network.fresh
  station : ∃ station, network.station? family (stack.node family) = some station ∧
    (∀ destination,
      station.LeadsTo destination ↔ destination ∈ destinations family interfaces routes) ∧
    ∀ entry ∈ stack.interfaces family, station.Lives entry.2

/-- A stack and its network before and after a change of one family. -/
structure Apart (family : Family) (stack : Stack) (network : Network) (after : Stack)
    (changed : Network) : Prop where
  node : ∀ other, after.node other = stack.node other
  interfaces : ∀ other, other ≠ family → after.interfaces other = stack.interfaces other
  beside : Network.Beside family network changed

/-- What holds in a family is not touched by a change of the other one. -/
theorem Holds.apart {other : Family} {interfaces : List InterfaceConfig}
    {routes : List StaticRoute} {stack after : Stack} {network changed : Network}
    (holds : Holds other interfaces routes stack network) (different : other ≠ family)
    (apart : Apart family stack network after changed) :
    Holds other interfaces routes after changed := by
  -- The part of the family, its interfaces in the stack and its node are all that is asked about.
  have side := apart.beside.side other different
  obtain ⟨named, distinct, issued, station, there, leads, lives⟩ := holds
  rw [← apart.interfaces other different] at named distinct issued lives
  refine ⟨named, distinct, fun entry listed => ?_, station, ?_, leads, lives⟩
  · exact Nat.lt_of_lt_of_le (issued entry listed) apart.beside.fresh
  · rw [Network.station?_congr side, apart.node, there]

section Attach

variable {interface : InterfaceConfig} {interfaces : List InterfaceConfig} {stack : Stack}
  {network : Network}

/-- A spelled address is what one of the texts is read as. -/
theorem mem_spelled {texts : List String} {entry : InterfaceAddress family} :
    entry ∈ spelled family texts ↔ ∃ text ∈ texts, InterfaceAddress.parse family text = .ok entry := by
  rw [spelled, List.mem_filterMap]
  refine exists_congr fun text => and_congr_right fun _ => ?_
  cases InterfaceAddress.parse family text with
  | error cause => simp [Except.toOption]
  | ok other => simp [Except.toOption]

/-- Texts that all spell addresses are read as these. -/
theorem mapM_parse {texts : List String}
    (spell : ∀ text ∈ texts, ∃ entry, InterfaceAddress.parse family text = .ok entry) :
    texts.mapM (InterfaceAddress.parse family) = .ok (spelled family texts) := by
  -- The induction is on the texts, each of which is read on its own.
  induction texts with
  | nil => rfl
  | cons text rest ih =>
    obtain ⟨entry, read⟩ := spell text List.mem_cons_self
    have others := ih fun other member => spell other (List.mem_cons_of_mem _ member)
    rw [List.mapM_cons, read, others]
    simp only [spelled, List.filterMap_cons, read]
    rfl

/-- Addresses that are given to an interface one after the other. -/
theorem forM_addAddress {node : NodeId} {station : Station family}
    (found : network.station? family node = some station) (id : InterfaceId)
    (entries : List (InterfaceAddress family)) :
    Yields (entries.forM fun entry =>
        step (·.configure family node fun station => ((), station.addAddress id entry))) network
      fun _ after => after.station? family node = some (station.addAddresses id entries) ∧
        Network.Beside family network after := by
  -- Between the steps the station has the addresses that were given so far.
  refine yields_forM (fun done after =>
    after.station? family node = some (station.addAddresses id done) ∧
      Network.Beside family network after) ⟨found, .refl ..⟩ ?_
  rintro done between entry - ⟨there, beside⟩
  obtain ⟨configured, next⟩ := Network.configure_station there fun station =>
    ((), station.addAddress id entry)
  refine (returns_step _).yields ⟨?_, beside.trans next⟩
  rw [configured, Station.addAddresses, Station.addAddresses, List.foldl_append]
  rfl

/-- An interface without addresses of a family is passed over there. -/
theorem Holds.skipped (holds : Holds family interfaces [] stack network)
    (bare : (interface.addresses family).isEmpty) :
    Holds family (interfaces ++ [interface]) [] stack network := by
  obtain ⟨named, distinct, issued, station⟩ := holds
  have none := List.isEmpty_iff.mp bare
  refine ⟨?_, distinct, issued, ?_⟩
  · simpa [bare] using named
  · simpa [destinations, none] using station

/-- A station with a new interface, which has got some addresses after it was attached. -/
theorem extends_insert {station : Station family} {id : InterfaceId} (link : LinkId) (node : NodeId)
    {entries : List (InterfaceAddress family)} (some : entries ≠ [])
    (single : ∀ entry ∈ entries, entry.isUnicast) :
    let placed : Station family :=
      { station with interfaces := station.interfaces.insert id (.onLink link none) }
    let given := (placed.attach node id).1.addAddresses id entries
    (∀ destination, given.LeadsTo destination ↔
        station.LeadsTo destination ∨ destination ∈ entries.filterMap (·.onLink?)) ∧
      (∀ other, other ≠ id → station.Lives other → given.Lives other) ∧ given.Lives id := by
  intro placed given
  -- The new interface has no addresses yet, so attaching it brings nothing.
  have there : placed.interfaces.get? id = .some (.onLink link none) := by
    rw [Dictionary.get?_insert, if_pos (beq_self_eq_true id)]
  have bare : (placed.interfaces.at id).addresses = [] := by
    rw [Interfaces.at, there]
    rfl
  have attached := Station.extends_attach node bare
  have grown := attached.trans (Station.extends_addAddresses _ id single)
  -- What is given to the interface afterwards makes it live.
  obtain ⟨interface, found, -⟩ := attached.grow id _ there
  refine ⟨grown.leads, fun other different lives => ?_, ?_⟩
  · -- The other interfaces are what they were when the new one came.
    obtain ⟨old, known, own⟩ := lives
    have kept : placed.Lives other := by
      refine ⟨old, ?_, own⟩
      rw [Dictionary.get?_insert, if_neg (by simpa using different), known]
    exact kept.grow grown.grow
  · exact Station.addAddresses_lives found some single

/-- An interface with addresses is one more, under an identity that no other one has. -/
theorem Holds.joined (holds : Holds family interfaces [] stack network)
    (present : interface.addresses family ≠ []) {changed : Network} {given station : Station family}
    (issued : network.fresh < changed.fresh)
    (before : network.station? family (stack.node family) = some station)
    (after : changed.station? family (stack.node family) = some given)
    (leads : ∀ destination, given.LeadsTo destination ↔ station.LeadsTo destination ∨
      destination ∈ (spelled family (interface.addresses family)).filterMap (·.onLink?))
    (keeps : ∀ other, other ≠ network.fresh → station.Lives other → given.Lives other)
    (lives : given.Lives network.fresh) :
    Holds family (interfaces ++ [interface]) []
      (stack.withInterface family interface.name network.fresh) changed := by
  obtain ⟨named, distinct, older, known, there, leading, living⟩ := holds
  cases before.symm.trans there
  -- The new identity is above all that were given before, so it differs from them.
  refine ⟨?_, ?_, ?_, given, ?_, ?_, ?_⟩
  · -- A new interface is the last of those that have addresses of the family.
    simp [named, List.filter_append, present]
  · rw [Stack.withInterface_interfaces]
    simp only [List.mem_append, List.mem_singleton]
    rintro entry (listed | rfl) other (known | rfl) same
    · exact distinct entry listed other known same
    · exact absurd same (Nat.ne_of_lt (older entry listed))
    · exact absurd same.symm (Nat.ne_of_lt (older other known))
    · rfl
  · rw [Stack.withInterface_interfaces]
    simp only [List.mem_append, List.mem_singleton]
    rintro entry (listed | rfl)
    · exact Nat.lt_trans (older entry listed) issued
    · exact issued
  · rw [Stack.withInterface_node, after]
  · intro destination
    rw [leads, leading]
    simp [destinations, spelled]
  · -- Older interfaces live on, and the new one has just been given its addresses.
    rw [Stack.withInterface_interfaces]
    simp only [List.mem_append, List.mem_singleton]
    rintro entry (listed | rfl)
    · exact keeps _ (Nat.ne_of_lt (older entry listed)) (living entry listed)
    · exact lives

/-- An interface is attached on a link of its own, with the addresses that it is given. -/
theorem attach_yields (config : Config) (registry : RegistryId) (link : LinkId)
    (holds : Holds family interfaces [] stack network)
    (spell : ∀ text ∈ interface.addresses family,
      ∃ entry, InterfaceAddress.parse family text = .ok entry ∧ entry.isUnicast) :
    Yields (attach family stack interface
        (openInterface config registry .apart family link interface)) network fun after changed =>
      Holds family (interfaces ++ [interface]) [] after changed ∧
        Apart family stack network after changed := by
  rw [attach]
  split
  · -- Without addresses of the family there is nothing to attach.
    rename_i bare
    exact returns_pure.yields
      ⟨holds.skipped bare, fun _ => rfl, fun _ _ => rfl, .refl ..⟩
  · rename_i present
    rw [List.isEmpty_iff] at present
    have parsed := mapM_parse fun text listed => (spell text listed).imp fun _ => And.left
    -- Addresses were spelled as unicast ones, and there is at least one.
    have single : ∀ entry ∈ spelled family (interface.addresses family), entry.isUnicast := by
      intro entry among
      obtain ⟨text, listed, read⟩ := mem_spelled.mp among
      obtain ⟨other, same, own⟩ := spell text listed
      cases read.symm.trans same
      exact own
    have some : spelled family (interface.addresses family) ≠ [] := by
      obtain ⟨text, listed⟩ := List.exists_mem_of_ne_nil _ present
      obtain ⟨entry, read, -⟩ := spell text listed
      exact List.ne_nil_of_mem (mem_spelled.mpr ⟨text, listed, read⟩)
    -- The station is followed through the three steps that it takes to have the interface.
    obtain ⟨station, there, -⟩ := holds.station
    obtain ⟨id, placed, later, opened⟩ := Network.addLinkInterface_station there link none
    obtain ⟨attached, beside⟩ := Network.configure_station placed fun station =>
      ((), station.attach (stack.node family) network.fresh)
    -- The steps in order: the texts are read, the interface is opened, attached, and given its addresses.
    refine (returns_lift parsed).bind ?_
    refine (returns_step _).bind ?_
    rw [id]
    refine (returns_step _).bind ?_
    refine (forM_addAddress attached _ _).bind ?_
    rintro - changed ⟨given, further⟩
    have issued : network.fresh < changed.fresh := by
      have next := (beside.trans further).fresh
      omega
    -- What the station has then is known from the station before.
    obtain ⟨leads, keeps, lives⟩ := extends_insert link (stack.node family) some single
    exact returns_pure.yields ⟨holds.joined present issued there given leads keeps lives,
      fun _ => Stack.withInterface_node .., fun _ different =>
        Stack.withInterface_interfaces_of_ne stack different _ _,
      opened.trans (beside.trans further)⟩

end Attach

end Assembly

end NetworkLayer
