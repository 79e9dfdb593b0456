import NetworkLayer.Proofs.Assembly.Work
import NetworkLayer.Proofs.Metrics.Elsewhere
import NetworkLayer.Proofs.Translation.Session

/-!
The gauges of a stack that is assembled. Main statement: the interfaces are put in place with their routes told,
and each configured IPv4 route without a word, so that the gauge misses as many routes as are configured.
-/

namespace NetworkLayer

/-- Number of the configured routes of a family. -/
def routeCount (routes : List StaticRoute) (family : Family) : Nat :=
  routes.countP (·.family == family)

/-- A translator that has just been made tracks no flow. -/
theorem Translator.totalSize_of_create {internal external : Side} {config : TranslatorConfig}
    {now : Nat} {translator : Translator}
    (created : create internal external config now = .ok translator) :
    translator.totalSize = 0 := by
  obtain ⟨ports, icmp, -⟩ := create_eq_ok created
  -- Each of the three tables is made empty.
  have udp : translator.udp.table.flows = [] := congrArg (·.table.flows) (ports .udp)
  have tcp : translator.tcp.table.flows = [] := congrArg (·.table.flows) (ports .tcp)
  have echoes : translator.icmp.table.flows = [] := congrArg (·.table.flows) icmp
  unfold totalSize
  rw [size_eq, size_eq, size_eq, table, table, table, udp, tcp, echoes]
  rfl

/-- A mapping that is put in tracks no flow. -/
theorem Translator.totalSize_of_addStatic {translator after : Translator}
    {protocol : TrackedProtocol} {external internal : Endpoint}
    (mapped : translator.addStatic protocol external internal = .ok after) :
    after.totalSize = translator.totalSize := by
  -- A mapping of ICMP is refused. The other two protocols keep their mappings apart from their flows, and the
  -- size counts flows only.
  cases protocol with
  | icmp => cases mapped
  | tcp =>
    cases mapped
    rfl
  | udp =>
    cases mapped
    rfl

namespace Network

variable {network : Network} {node : NodeId} {alone : Bool} {drift : Drift} {untold : Nat}

/-- A network that shows a node without flows, with so many routes that the gauge was not told of. -/
def Assembles (alone : Bool) (node : NodeId) (untold : Nat) (network : Network) : Prop :=
  ∃ view, network.view? node = some view ∧ view.tracked = 0 ∧ view.Drifts alone ⟨untold, 0⟩

/-- What is spared is assembled further. -/
theorem Assembles.spared {before after : Network} (assembles : before.Assembles alone node untold)
    (spares : Spares alone node before after) : after.Assembles alone node untold := by
  obtain ⟨view, shown, none, off⟩ := assembles
  obtain ⟨later, there, kept⟩ := spares view shown
  exact ⟨later, there, kept.tracked.trans none, off.kept kept⟩

/-- A translator that tracks as many flows as the one it replaces spares every node. -/
theorem withTranslator_spares {id : PolicyId} {translator other : Translator}
    {registry : RegistryId} (there : network.translator? id = some (translator, registry))
    (same : other.totalSize = translator.totalSize) :
    Spares alone node network (network.withTranslator id other) := by
  intro view shown
  obtain ⟨hosted, installed, hosting, found, rfl⟩ := view?_eq_some_iff.mp shown
  -- The node may use this policy or another one, which stays.
  by_cases own : hosted.policy = id
  · have replaced : installed.policy = .translating translator := by
      rw [translator?, ← own, found] at there
      split at there
      · rename_i known
        cases known
        cases there
        rfl
      · cases there
    refine ⟨⟨⟨hosted.node, network.v4.interfaces⟩, .translating other,
      network.metrics hosted.registry⟩, ?_, rfl, ?_, rfl, fun _ => rfl⟩
    · rw [view?_eq_some_iff]
      refine ⟨hosted, { installed with policy := .translating other }, hosting, ?_, rfl⟩
      refine (Dictionary.get?_modify).trans ?_
      rw [if_pos (beq_iff_eq.mpr own), found]
      rfl
    · rw [View.tracked, View.tracked, replaced]
      exact same
  · -- A policy of another name is not touched, and neither is the node that uses it.
    refine ⟨_, ?_, .refl _⟩
    rw [view?_eq_some_iff]
    refine ⟨hosted, installed, hosting, ?_, rfl⟩
    refine (Dictionary.get?_modify).trans ?_
    rw [if_neg (fun same => own (eq_of_beq same)), found]

/-- A configured node that has its routes told stays as it is assembled, as long as none was put in place without a
word. -/
theorem Assembles.configured (assembles : network.Assembles alone node 0)
    {α : Type} [Inhabited α] {step : Station .v4 → α × Station .v4 × List Tally}
    (told : ∀ station, Station.Told station (step station).2.1 (step station).2.2) :
    (network.configure .v4 node step).2.Assembles alone node 0 := by
  obtain ⟨view, shown, none, off⟩ := assembles
  have later := off.changed (told view.station)
  -- Where nothing is untold, the gauge is right whether it is told or not.
  have right : (⟨0, 0⟩ : Drift).changed (step view.station).2.2 = ⟨0, 0⟩ := by
    unfold Drift.changed
    split <;> rfl
  rw [right] at later
  exact ⟨_, configure_view shown step, none, later⟩

/-- A translator is made for a node without flows, and tracks none. -/
theorem Assembles.translating (assembles : network.Assembles alone node untold)
    {internal external : InterfaceId} {config : TranslatorConfig} {id : PolicyId} {after : Network}
    (installed : network.installTranslator node internal external config = .ok (id, after)) :
    after.Assembles alone node untold := by
  obtain ⟨view, shown, none, off⟩ := assembles
  unfold installTranslator at installed
  dsimp only at installed
  -- The interfaces that creation looks at are only checked, so the two outcomes are all that is split.
  cases created : Translator.create
      ⟨internal, (network.interface .v4 internal).name, (network.interface .v4 internal).addresses⟩
      ⟨external, (network.interface .v4 external).name, (network.interface .v4 external).addresses⟩
      config network.now with
  | error cause =>
    rw [created] at installed
    cases installed
  | ok translator =>
    rw [created] at installed
    cases installed
    have empty := Translator.totalSize_of_create created
    have given := onNode_view (setPolicy_view shown (.translating translator))
      fun node => { node with settings := { node.settings with forwarding := true } }
    -- Neither the settings of the node nor who holds its policy is shown.
    have same : View.Kept alone view { view with
        station := { view.station with
          node := { view.station.node with
            settings := { view.station.node.settings with forwarding := true } } }
        policy := .translating translator } :=
      ⟨rfl, empty.trans none.symm, rfl, fun _ => rfl⟩
    have made : Assembles alone node untold _ :=
      ⟨_, given, empty, off.kept same⟩
    exact made.spared (Quiet.of_same rfl rfl rfl).spares

/-- A route that is put in place without a word is one more that the gauge misses. -/
theorem Assembles.placed (assembles : network.Assembles alone node untold)
    {station : Station .v4} (there : network.station? .v4 node = some station)
    {table : RoutingTable .v4} (longer : table.routes.length = station.node.table.routes.length + 1) :
    (network.onNode .v4 node fun node => { node with table }).Assembles alone node (untold + 1) := by
  obtain ⟨view, shown, none, off⟩ := assembles
  obtain ⟨hosted, installed, hosting, found, rfl⟩ := view?_eq_some_iff.mp shown
  obtain ⟨other, known, rfl⟩ := Option.map_eq_some_iff.mp there
  cases hosting.symm.trans known
  exact ⟨_, onNode_view shown _, none, off.placed longer⟩

/-- A node that has just been set up has no routes and no flows, and its gauges say so. -/
theorem assembles_of_addNode (network : Network) (settings : Family → NodeSettings) :
    let registered := network.addRegistry
    let first := registered.2.addNode .v4 (settings .v4) registered.1
    let second := first.2.addNode .v6 (settings .v6) registered.1
    second.2.Assembles alone first.1 0 := by
  intro registered first second
  refine ⟨⟨⟨.create (settings .v4) (network.fresh + 2), second.2.v4.interfaces⟩, .plain, .empty⟩,
    ?_, rfl, fun _ => ⟨0, rfl, rfl⟩, rfl⟩
  rw [view?_eq_some_iff]
  -- What is shown is found by the handles that were just given, each larger than those before it.
  refine ⟨⟨.create (settings .v4) (network.fresh + 2), network.fresh + 3, network.fresh⟩,
    ⟨.plain, network.fresh + 1, network.fresh⟩, ?_, ?_, ?_⟩
  · exact (Dictionary.get?_insert).trans (if_pos (beq_self_eq_true _))
  · exact (Dictionary.get?_insert).trans (if_pos (beq_self_eq_true _))
  · have fresh : second.2.metrics network.fresh = .empty := by
      have kept : second.2.registries.get? network.fresh = some .empty :=
        (Dictionary.get?_insert).trans (if_pos (beq_self_eq_true _))
      rw [Network.metrics, kept]
      rfl
    dsimp only
    rw [fresh]

end Network

namespace Assembly

variable {alone : Bool} {node : NodeId} {untold : Nat} {stack : Stack}

/-- Work that leaves a node as it is assembled so far. -/
def Keeps {α : Type} (alone : Bool) (node : NodeId) (untold : Nat) (work : Assembly α) : Prop :=
  Leaves (Network.Assembles alone node untold) work fun _ => Network.Assembles alone node untold

/-- A quiet change keeps the node. -/
theorem keeps_step {α : Type} {change : Network → α × Network}
    (quiet : ∀ network, Network.Quiet alone network (change network).2) :
    Keeps alone node untold (step change) :=
  leaves_step fun network assembles => assembles.spared (quiet network).spares

/-- A quiet change that yields nothing keeps the node. -/
theorem keeps_modify {change : Network → Network}
    (quiet : ∀ network, Network.Quiet alone network (change network)) :
    Keeps alone node untold (modify change) :=
  leaves_modify fun network assembles => assembles.spared (quiet network).spares

/-- A result keeps the node, whether it is there or not. -/
theorem keeps_lift {α : Type} (result : Except Error α) :
    Keeps alone node untold (liftExcept result) :=
  leaves_lift fun _ _ assembles _ => assembles

/-- A value keeps the node. -/
theorem keeps_pure {α : Type} (value : α) : Keeps alone node untold (pure value) :=
  leaves_pure fun _ assembles => assembles

/-- A device that is opened keeps the node. -/
theorem openDevice_keeps (device : Nat → String → Except Error Mac) (interface : InterfaceConfig) :
    Keeps alone node untold (openDevice device interface) := by
  -- Opening a device counts it and reads its address, neither of which is shown.
  refine (leaves_get fun _ assembles => assembles).bind fun network => ?_
  refine (keeps_lift _).bind fun own => ?_
  refine Leaves.bind (keeps_modify ?_) fun _ => ?_
  · exact fun network => Network.Quiet.of_same rfl rfl rfl
  · split
    · exact keeps_pure _
    · exact keeps_lift _

/-- An interface that is set up keeps the node, on a link of its own or on a device. -/
theorem openInterface_keeps (config : Config) (registry : RegistryId) (surroundings : Surroundings)
    (family : Family) (link : LinkId) (interface : InterfaceConfig) :
    Keeps alone node untold
      (openInterface config registry surroundings family link interface) := by
  cases surroundings with
  -- On a link of its own an interface is one step. On a device the card comes first, and both keep what is
  -- shown.
  | apart =>
    refine keeps_step fun network => ?_
    cases family <;> exact Network.Quiet.of_same rfl rfl rfl
  | devices hub device =>
    refine (openDevice_keeps device interface).bind fun mac => ?_
    refine keeps_step fun network => ?_
    cases family <;> exact Network.Quiet.of_same rfl rfl rfl

/-- A node of the stack that is configured keeps the IPv4 node. -/
theorem keeps_configure (family : Family) (other : family = .v6 → alone = false)
    {change : Station family → Unit × Station family × List Tally}
    (told : ∀ station, Station.Told station (change station).2.1 (change station).2.2) :
    Keeps alone stack.v4 0 (step (·.configure family (stack.node family) change)) := by
  -- An IPv4 node is followed as it is configured, and an IPv6 node only has to be quiet.
  cases family with
  | v4 => exact leaves_step fun network assembles => assembles.configured told
  | v6 =>
    obtain rfl := other rfl
    exact keeps_step fun network =>
      Network.Quiet.configure_v6 fun station => (told station).translations

/-- An interface that is attached with its addresses has its routes told. -/
theorem attach_leaves (family : Family) {interface : InterfaceConfig}
    (other : family = .v6 → alone = true → interface.ipv6 = []) {opened : Assembly InterfaceId}
    (keeps : Keeps alone stack.v4 0 opened) :
    Leaves (Network.Assembles alone stack.v4 0) (attach family stack interface opened)
      fun after network => after.v4 = stack.v4 ∧ network.Assembles alone stack.v4 0 := by
  unfold attach
  split
  · exact leaves_pure fun _ assembles => ⟨rfl, assembles⟩
  · rename_i listed
    -- A node that is alone in its metrics has no interface of IPv6 beside it.
    have beside : family = .v6 → alone = false := by
      intro six
      rw [← Bool.not_eq_true]
      intro only
      have none := other six only
      subst six
      exact listed (List.isEmpty_iff.mpr none)
    refine (keeps_lift _).bind fun entries => keeps.bind fun id => ?_
    refine (keeps_configure family beside fun station => station.attach_told _ id).bind fun _ => ?_
    refine Leaves.bind (leaves_forM (fun _ => Network.Assembles alone stack.v4 0) ?_) fun _ => ?_
    · intro _ entry _
      exact keeps_configure family beside fun station => station.addAddress_told id entry
    · refine leaves_pure fun _ assembles => ⟨?_, assembles⟩
      cases family <;> rfl

/-- A configured route is one more in the table. -/
theorem length_of_withRoute {family : Family} {table after : RoutingTable family}
    {route : StaticRoute} (placed : withRoute stack table route = .ok after) :
    after.routes.length = table.routes.length + 1 := by
  have added (entry : Route family) :
      (table.add entry).routes.length = table.routes.length + 1 := List.length_append
  simp only [withRoute, bind, Except.bind] at placed
  -- A text that spells nothing refuses the route.
  split at placed
  · cases placed
  · rename_i destination _
    split at placed
    · -- The gateway decides which of the two ways of adding is taken, and only a gateway that is not reached is
      -- refused in the second.
      cases placed
    · rename_i gateway _
      split at placed
      · split at placed
        · cases placed
        · cases placed
          exact added _
      · rename_i gateway _
        unfold RoutingTable.addVia at placed
        split at placed
        · cases placed
          exact added _
        · cases placed
      · cases placed

/-- A configured route of IPv4 is one more that the gauge misses. -/
theorem addRoute_leaves (route : StaticRoute) :
    Leaves (Network.Assembles alone stack.v4 untold) (addRoute stack route)
      fun _ => Network.Assembles alone stack.v4 (untold + routeCount [route] .v4) := by
  unfold addRoute
  have count : routeCount [route] .v4 = if route.family == .v4 then 1 else 0 := by
    rw [routeCount, List.countP_singleton]
  rw [count]
  dsimp only
  generalize route.family = family
  refine leaves_seen.bind fun seen => ?_
  split
  -- The IPv4 node is there, as it is shown.
  · rename_i missing
    refine leaves_pure fun network held => ?_
    -- Without an IPv4 node there would be nothing to show. The IPv6 node may be missing, and its routes are not
    -- counted.
    obtain ⟨rfl, assembles⟩ := held
    cases family with
    | v4 =>
      obtain ⟨view, shown, -⟩ := assembles
      obtain ⟨hosted, -, hosting, -⟩ := Network.view?_eq_some_iff.mp shown
      rw [Network.station?, Option.map_eq_none_iff] at missing
      cases missing.symm.trans hosting
    | v6 => exact assembles
  · rename_i station there
    have placing : Leaves (fun network => seen = network ∧ network.Assembles alone stack.v4 untold)
        -- The table that is placed is one route longer than the one that was seen, which is what the gauge is
        -- not told of.
        (liftExcept (withRoute stack station.node.table route)) fun table network =>
          (seen = network ∧ network.Assembles alone stack.v4 untold) ∧
            table.routes.length = station.node.table.routes.length + 1 :=
      leaves_lift fun _ _ held placed => ⟨held, length_of_withRoute placed⟩
    refine placing.bind fun table => leaves_modify fun network held => ?_
    obtain ⟨⟨rfl, assembles⟩, longer⟩ := held
    cases family with
    -- A route of IPv6 goes to the other side of the network.
    | v4 => exact assembles.placed there longer
    | v6 => exact assembles.spared (Network.Quiet.onSide_v6 _ _).spares

/-- Each configured route of IPv4 is one more that the gauge misses. -/
theorem addRoutes_leaves (routes : List StaticRoute) :
    Leaves (Network.Assembles alone stack.v4 0) (routes.forM (addRoute stack))
      fun _ => Network.Assembles alone stack.v4 (routeCount routes .v4) := by
  -- One route after the other, with the number of those that are done.
  refine leaves_forM (fun done => Network.Assembles alone stack.v4 (routeCount done .v4)) ?_
  intro done route _
  have more : routeCount (done ++ [route]) .v4 = routeCount done .v4 + routeCount [route] .v4 :=
    List.countP_append
  rw [more]
  exact addRoute_leaves route

/-- A translation that is put in place tracks no flow, and its mappings track none. -/
theorem addTranslation_leaves (config : TranslationConfig) :
    Leaves (Network.Assembles alone stack.v4 untold) (addTranslation stack config)
      fun after network => after.v4 = stack.v4 ∧ network.Assembles alone stack.v4 untold := by
  refine (keeps_lift _).bind fun internal => (keeps_lift _).bind fun external => ?_
  refine leaves_seen.bind fun seen => ?_
  -- The translator that is made stands in for the plain policy of the node.
  have installing : Leaves
      (fun network => seen = network ∧ network.Assembles alone stack.v4 untold)
      (liftExcept (seen.installTranslator stack.v4 internal external config.settings))
      fun installed _ => installed.2.Assembles alone stack.v4 untold := by
    refine leaves_lift fun network installed held made => ?_
    obtain ⟨rfl, assembles⟩ := held
    exact assembles.translating made
  refine installing.bind fun installed => ?_
  obtain ⟨id, network⟩ := installed
  -- From here on the network is the one with the translator, and only the mappings are left.
  have putting : Leaves (fun _ => network.Assembles alone stack.v4 untold) (set network)
      fun _ => Network.Assembles alone stack.v4 untold :=
    leaves_set fun _ assembles => assembles
  refine putting.bind fun _ => ?_
  refine Leaves.bind (leaves_forM (fun _ => Network.Assembles alone stack.v4 untold) ?_) fun _ => ?_
  · intro _ mapping _
    refine leaves_seen.bind fun seen => ?_
    split
    · exact leaves_pure fun network held => held.2
    · -- Each mapping changes the translator alone, and no flow comes with it.
      rename_i translator registry there
      have adding : Leaves
          (fun network => seen = network ∧ network.Assembles alone stack.v4 untold)
          (liftExcept (translator.addStatic mapping.protocol.tracked
            ⟨translator.externalAddress, mapping.externalPort⟩
            ⟨mapping.internalAddress, mapping.internalPort⟩))
          fun after network => (network.withTranslator id after).Assembles alone stack.v4 untold := by
        refine leaves_lift fun network after held mapped => ?_
        obtain ⟨rfl, assembles⟩ := held
        exact assembles.spared (Network.withTranslator_spares there
          (Translator.totalSize_of_addStatic mapped))
      exact adding.bind fun after => leaves_modify fun _ assembles => assembles
  · exact leaves_pure fun _ assembles => ⟨rfl, assembles⟩

/-- The interfaces are attached in both families, and the routes that come with them are told. -/
theorem attachAll_leaves (config : Config) (surroundings : Surroundings) (registry : RegistryId)
    (link4 link6 : LinkId) (only : alone = true → ∀ interface ∈ config.interfaces, interface.ipv6 = []) :
    Leaves (fun network => stack.v4 = node ∧ network.Assembles alone node 0)
      (config.interfaces.foldlM (fun stack interface => do
        let stack ← attach .v4 stack interface
          (openInterface config registry surroundings .v4 link4 interface)
        attach .v6 stack interface
          (openInterface config registry surroundings .v6 link6 interface)) stack)
      fun after network => after.v4 = node ∧ network.Assembles alone node 0 := by
  refine leaves_foldlM (fun _ (stack : Stack) network => stack.v4 = node ∧ network.Assembles alone node 0) ?_
  intro _ stack interface member
  have opened (stack : Stack) (family : Family) (link : LinkId) : Keeps alone stack.v4 0
      (openInterface config registry surroundings family link interface) :=
    openInterface_keeps config registry surroundings family link interface
  -- An attached interface leaves the nodes of the stack as they are.
  refine leaves_of_fact fun own => ?_
  subst own
  refine (attach_leaves .v4 (fun six => nomatch six) (opened stack .v4 link4)).bind fun after => ?_
  refine leaves_of_fact fun own => ?_
  rw [← own]
  exact attach_leaves .v6 (fun _ alone => only alone interface member) (opened after .v6 link6)

/-- What a configuration describes is put in place with each configured IPv4 route missed by the gauge. -/
theorem furnish_leaves (config : Config) (surroundings : Surroundings) (registry : RegistryId)
    (only : alone = true → ∀ interface ∈ config.interfaces, interface.ipv6 = []) :
    Leaves (Network.Assembles alone stack.v4 0) (furnish config surroundings registry stack)
      fun after network => after.v4 = stack.v4 ∧
        network.Assembles alone stack.v4 (routeCount config.routing.staticRoutes .v4) := by
  -- Links are added on both sides before any interface, and neither is shown.
  refine Leaves.bind (keeps_step fun _ => Network.Quiet.of_same rfl rfl rfl) fun link4 => ?_
  have linked : Leaves (Network.Assembles alone stack.v4 0)
      (step (·.addLink (Prefix.containing (.unspecified : Address .v6) 0)))
      fun _ network => stack.v4 = stack.v4 ∧ network.Assembles alone stack.v4 0 :=
    (keeps_step fun _ => Network.Quiet.of_same rfl rfl rfl).mono fun _ _ assembles => ⟨rfl, assembles⟩
  refine linked.bind fun link6 => ?_
  refine (attachAll_leaves config surroundings registry link4 link6 only).bind fun attached => ?_
  -- The handles of the stack stay what they were, so that the routes that follow go to the node that is shown.
  refine leaves_of_fact fun own => ?_
  rw [← own]
  refine (addRoutes_leaves config.routing.staticRoutes).bind fun _ => ?_
  split
  · exact leaves_pure fun _ assembles => ⟨rfl, assembles⟩
  · rename_i translation _
    exact addTranslation_leaves translation

end Assembly

/-- A stack that is built has right gauges, except for the configured routes of IPv4, which its gauge was not told of.
For the gauge of routes the stack has to have no interface of IPv6, since both nodes of a stack tell the same gauge. -/
theorem Network.addStack_drifts {network built : Network} {config : Config}
    {surroundings : Surroundings} {stack : Stack} {alone : Bool}
    (only : alone = true → ∀ interface ∈ config.interfaces, interface.ipv6 = [])
    (made : network.addStack config surroundings = (.ok stack, built)) :
    built.Drifts alone stack.v4 ⟨routeCount config.routing.staticRoutes .v4, 0⟩ := by
  -- The stack starts from a registry and two nodes that have just been made, where the gauge is right.
  have start := @assembles_of_addNode alone network config.nodeSettings
  unfold addStack at made
  dsimp only at made start
  generalize network.addRegistry.2.addNode .v4 (config.nodeSettings .v4)
    network.addRegistry.1 = first at made start
  generalize first.2.addNode .v6 (config.nodeSettings .v6) network.addRegistry.1 = second
    at made start
  split at made
  · rename_i furnished after ran
    cases made
    obtain ⟨own, view, shown, -, off⟩ := Assembly.furnish_leaves config surroundings
      network.addRegistry.1 only second.2 stack built start ran
    rw [own]
    exact ⟨view, shown, off⟩
  · cases made

end NetworkLayer
