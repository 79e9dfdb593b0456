import NetworkLayer.CommandLine
import NetworkLayer.Proofs.Assembly.Routes
import NetworkLayer.Proofs.Translation.Session

/-!
Stacks of configurations in which no error is found. Main statement: such a configuration is built unless
the gateway of a route is not reached, and the command that tells a route goes as the building does.
-/

namespace NetworkLayer

/-- A translator can be made between two interfaces, the outer one with an address of its own. -/
theorem Translator.create_isOk {internal external : Side} {config : TranslatorConfig} (now : Nat)
    (apart : internal.interface ≠ external.interface) (firstPort : config.firstPort ≠ 0)
    (portRange : ¬ config.lastPort < config.firstPort)
    (own : ∃ entry ∈ external.addresses, entry.isUnicast) :
    ∃ translator, create internal external config now = .ok translator := by
  have range : ¬ (config.firstPort = 0 ∨ config.lastPort < config.firstPort) := by
    simp [firstPort, portRange]
  -- The external address is given, or there is one to take from the interface.
  obtain ⟨entry, listed, single⟩ := own
  obtain ⟨first, found⟩ := Option.isSome_iff_exists.mp
    (List.find?_isSome.mpr ⟨entry, listed, single⟩)
  rw [create, if_neg apart, if_neg range]
  cases config.externalAddress with
  | some address => exact ⟨_, rfl⟩
  | none =>
    rw [found]
    exact ⟨_, rfl⟩

/-- A translator can be put between two interfaces, the outer one with an address of its own. -/
theorem Network.installTranslator_isOk (network : Network) (node : NodeId)
    (config : TranslatorConfig) {internal external : InterfaceId} (apart : internal ≠ external)
    (firstPort : config.firstPort ≠ 0) (portRange : ¬ config.lastPort < config.firstPort)
    (own : ∃ entry ∈ (network.interface .v4 external).addresses, entry.isUnicast) :
    ∃ installed, network.installTranslator node internal external config = .ok installed := by
  let sideOf := fun id =>
    (⟨id, (network.interface .v4 id).name, (network.interface .v4 id).addresses⟩ : Translator.Side)
  obtain ⟨translator, created⟩ := @Translator.create_isOk (sideOf internal) (sideOf external)
    config network.now apart firstPort portRange own
  rw [installTranslator]
  -- The sides are those that the network shows, so the translator is made as it is alone.
  simp only [sideOf] at created
  rw [created]
  exact ⟨_, rfl⟩

namespace Assembly

variable {stack : Stack} {network : Network} {config : Config}

/-- A side of a translation is an interface of the stack, which lives. -/
theorem side_found {name : String} {routes : List StaticRoute}
    (holds : Holds .v4 config.interfaces routes stack network)
    (there : ∃ interface, config.interface? name = some interface ∧ interface.ipv4 ≠ []) :
    ∃ id, stack.find .v4 name = .ok id ∧ (name, id) ∈ stack.interfaces .v4 ∧
      ∃ entry ∈ (network.interface .v4 id).addresses, entry.isUnicast := by
  -- The name leads to an interface of the configuration, and from there to one of the stack.
  obtain ⟨interface, given, present⟩ := there
  obtain ⟨member, rfl⟩ := mem_of_interface? given
  obtain ⟨id, found, listed⟩ := holds.find member present
  -- What is known of the interface in the station is known of it in the network.
  obtain ⟨station, known, -, lives⟩ := holds.station
  obtain ⟨own, kept, entry, among, single⟩ := lives _ listed
  refine ⟨id, found, listed, entry, ?_, single⟩
  rw [Network.interfaces_of_station? known] at kept
  rw [Network.interface, Interfaces.at, kept]
  exact among

/-- The translation is put in place between its two interfaces. -/
theorem addTranslation_yields {translation : TranslationConfig} (sound : translation.Sound config)
    {routes : List StaticRoute} (holds : Holds .v4 config.interfaces routes stack network) :
    Yields (addTranslation stack translation) network fun _ _ => True := by
  -- Two names that differ stand for two identities, since no identity is given twice.
  obtain ⟨internal, inside, first, -⟩ := side_found holds sound.internal
  obtain ⟨external, outside, second, own⟩ := side_found holds sound.external
  have apart : internal ≠ external := fun same =>
    sound.apart (congrArg Prod.fst (holds.distinct _ first _ second same))
  obtain ⟨⟨id, translating⟩, installed⟩ := network.installTranslator_isOk stack.v4
    translation.settings apart sound.firstPort sound.portRange own
  refine (returns_lift inside).bind ((returns_lift outside).bind ?_)
  refine returns_get.bind ((returns_lift installed).bind (returns_set.bind ?_))
  refine Yields.bind (yields_forM (fun _ _ => True) trivial ?_) fun _ _ _ => returns_pure.yields trivial
  -- A mapping is of a protocol with ports, so none of them is refused.
  rintro - between mapping - -
  refine returns_get.bind ?_
  split
  · exact returns_pure.yields trivial
  · exact (returns_lift (Translator.addStatic_tracked ..)).bind ((returns_modify _).yields trivial)

/-- A new link is nothing that a stack stands on. -/
theorem Holds.addLink {family other : Family} {interfaces : List InterfaceConfig}
    {routes : List StaticRoute} (holds : Holds other interfaces routes stack network)
    (net : Prefix family) : Holds other interfaces routes stack (network.addLink net).2 := by
  obtain ⟨named, distinct, issued, station⟩ := holds
  rw [← network.addLink_station net] at station
  have later : network.fresh ≤ (network.addLink net).2.fresh :=
    ((Network.Beside.newId family network).trans (.onSide _ _)).fresh
  exact ⟨named, distinct, fun entry listed => Nat.lt_of_lt_of_le (issued entry listed) later, station⟩

/-- The interfaces are attached in both families, each with the addresses that it has there. -/
theorem attachAll_yields (accepted : config.errors = []) (registry : RegistryId)
    (link4 link6 : LinkId) (holds : ∀ family, Holds family [] [] stack network) :
    Yields (config.interfaces.foldlM (fun stack interface => do
        let stack ← attach .v4 stack interface
          (openInterface config registry .apart .v4 link4 interface)
        attach .v6 stack interface (openInterface config registry .apart .v6 link6 interface)) stack)
      network fun stack after => ∀ family, Holds family config.interfaces [] stack after := by
  refine yields_foldlM (fun done stack after => ∀ family, Holds family done [] stack after) holds ?_
  intro done stack network interface member holds
  have spell := fun (family : Family) text (listed : text ∈ interface.addresses family) =>
    Config.address_of_accepted accepted member listed
  -- What the one family gets stays while the other one gets its own.
  refine (attach_yields config registry link4 (holds .v4) (spell .v4)).bind ?_
  rintro between after ⟨first, apart⟩
  have kept := (holds .v6).apart (by decide) apart
  refine (attach_yields config registry link6 kept (spell .v6)).mono ?_
  rintro last final ⟨second, further⟩ family
  cases family with
  | v4 => exact first.apart (by decide) further
  | v6 => exact second

/-- What a configuration describes is put around the nodes of a stack, unless a route is lost. -/
theorem furnish_ends (accepted : config.errors = [])
    (served : ∀ route ∈ config.routing.staticRoutes, route.Served config) (registry : RegistryId)
    (holds : ∀ family, Holds family [] [] stack network) :
    Ends (furnish config .apart registry stack) network config.refusal? fun _ _ => True := by
  -- Links, interfaces, routes and the translation; only the routes may be refused.
  refine (returns_step _).ends ((returns_step _).ends ?_)
  refine Yields.ends (attachAll_yields accepted registry _ _ fun family =>
    ((holds family).addLink _).addLink _) fun stack after holds => ?_
  refine Ends.bind (addRoutes_ends (fun _ => Config.route_of_accepted accepted) served holds)
    fun _ after holds => ?_
  cases given : config.translation with
  | none => exact returns_pure.yields trivial
  | some translation =>
    exact addTranslation_yields (Config.translation_of_accepted accepted given) (holds .v4)

end Assembly

namespace Network

/-- A stack starts with two nodes that lead nowhere. -/
theorem nodes_hold (network : Network) (settings : Family → NodeSettings) (registry : RegistryId) :
    let first := network.addNode .v4 (settings .v4) registry
    let second := first.2.addNode .v6 (settings .v6) registry
    ∀ family, Assembly.Holds family [] [] ⟨first.1, second.1, [], [], none⟩ second.2 := by
  intro first second family
  obtain ⟨⟨station4, there4, bare4⟩, -⟩ := network.addNode_station .v4 (settings .v4) registry
  obtain ⟨⟨station6, there6, bare6⟩, beside⟩ := first.2.addNode_station .v6 (settings .v6) registry
  -- Nothing leads anywhere while the table is empty.
  have empty : ∀ {family : Family} {station : Station family}, station.node.table = .empty →
      ∀ destination, station.LeadsTo destination ↔ destination ∈ Assembly.destinations family [] [] := by
    intro family station bare destination
    simp [Station.LeadsTo, bare, RoutingTable.empty, Assembly.destinations, Assembly.spelled]
  cases family with
  | v4 =>
    refine ⟨rfl, List.forall_mem_nil _, List.forall_mem_nil _, station4, ?_, empty bare4,
      List.forall_mem_nil _⟩
    -- The second node does not touch the first one.
    exact (station?_congr (beside.side .v4 (by decide))).trans there4
  | v6 =>
    exact ⟨rfl, List.forall_mem_nil _, List.forall_mem_nil _, station6, there6, empty bare6,
      List.forall_mem_nil _⟩

/-- The stack of a configuration without errors is built, unless a route is lost. -/
theorem addStack_result (network : Network) {config : Config} (accepted : config.errors = [])
    (served : ∀ route ∈ config.routing.staticRoutes, route.Served config) :
    (config.refusal? = none → ∃ stack, (network.addStack config .apart).1 = .ok stack) ∧
      ∀ cause, config.refusal? = some cause → (network.addStack config .apart).1 = .error cause := by
  -- The routes decide: either all are placed, or the first that is lost ends the assembly.
  have ends := Assembly.furnish_ends accepted served network.addRegistry.1
    (network.addRegistry.2.nodes_hold config.nodeSettings network.addRegistry.1)
  rw [addStack]
  dsimp only
  constructor
  · intro clear
    rw [clear] at ends
    obtain ⟨stack, after, built, -⟩ := ends
    refine ⟨stack, ?_⟩
    -- The registry and the nodes are made before, and neither can fail.
    rw [built]
  · intro cause lost
    rw [lost] at ends
    split
    · rename_i built
      have same := congrArg Prod.fst built
      cases same.symm.trans ends
    · rename_i built
      have same := congrArg Prod.fst built
      exact same.symm.trans ends

end Network

/-- Lines that are printed first stand in front of what the other actions print. -/
theorem Outcome.ofActions_prints (lines : List String) (actions : List Action) :
    ofActions (lines.map .print ++ actions) =
      { ofActions actions with printed := lines ++ (ofActions actions).printed } := by
  induction lines with
  | nil => rfl
  | cons line rest ih =>
    rw [List.map_cons, List.cons_append, ofActions, ih]
    rfl

namespace Config

variable {config : Config}

/-- The lines that warn of what is found. -/
def warningLines (config : Config) : List String :=
  config.warnings.map fun finding => "[WARN] " ++ finding.message

/-- A command goes on behind the warnings if there is no error. -/
theorem checked_outcome (accepted : config.errors = []) (next : List Action) :
    Outcome.ofActions (Command.checked config next) =
      { Outcome.ofActions next with
        printed := config.warningLines ++ (Outcome.ofActions next).printed } := by
  have goes : Command.checked config next = config.warningLines.map .print ++ next := by
    rw [Command.checked, accepted, warningLines, List.map_map]
    rw [List.map_nil, List.append_nil]
    rfl
  rw [goes, Outcome.ofActions_prints]

/-- What a command does with the configuration of its file. -/
theorem withConfig_eq {environment : Environment} {text : String}
    (given : environment.text = .ok text) (parsed : Config.parse text = .ok config) (path : String)
    (next : Config → List Action) : Command.withConfig path environment next = next config := by
  rw [Command.withConfig, given]
  dsimp only
  rw [parsed]

/-- The command that tells a route prints one line behind the warnings if the stack is built. -/
theorem describe_outcome_of_ok {stack : Stack}
    (built : (Network.addStack {} config .apart).1 = .ok stack) {family : Family}
    (address : Address family) :
    ∃ line, Outcome.ofActions (Command.describe config address) = ⟨0, [line], [], []⟩ := by
  rw [Command.describe]
  split
  · -- The stack was built, so only the two answers of the look-up are left.
    rename_i refused
    rw [refused] at built
    cases built
  · split
    · exact ⟨_, rfl⟩
    · exact ⟨_, rfl⟩

/-- The command that tells a route fails with the cause if the stack is refused. -/
theorem describe_outcome_of_error {cause : Error}
    (refused : (Network.addStack {} config .apart).1 = .error cause) {family : Family}
    (address : Address family) :
    Outcome.ofActions (Command.describe config address) =
      ⟨1, [], [failureLine ("Failed to build routing table: " ++ cause.message)], []⟩ := by
  rw [Command.describe]
  -- The stack was refused, so the command ends with the failure.
  split
  · rename_i same
    rw [same] at refused
    cases refused
    rfl
  · rename_i built
    rw [built] at refused
    cases refused

/--
Where no error is found in a configuration, its stack is built unless a gateway is lost: neither a network
on a link nor a route in front of its own leads there, and its route names no interface.

Of several such gateways the first one is the cause of the refusal. The command that tells a route prints
one line behind the warnings if the stack is built, and fails with that cause otherwise. Routes over an
interface that has no address of their family are left out.
-/
theorem accepted_built_unless_lost (network : Network) (config : Config)
    (accepted : config.errors = [])
    (served : ∀ route ∈ config.routing.staticRoutes, route.Served config) :
    (config.refusal? = none →
      (∃ stack, (network.addStack config .apart).1 = .ok stack) ∧
      ∀ path address environment text,
        environment.text = .ok text → Config.parse text = .ok config →
        ∃ line, (Command.route path address).outcome environment =
          ⟨0, config.warningLines ++ [line], [], []⟩) ∧
    ∀ cause, config.refusal? = some cause →
      (network.addStack config .apart).1 = .error cause ∧
      ∀ path address environment text,
        environment.text = .ok text → Config.parse text = .ok config →
        (Command.route path address).outcome environment =
          ⟨1, config.warningLines,
            [failureLine ("Failed to build routing table: " ++ cause.message)], []⟩ := by
  -- The assembly alone and the command both build the stack, the command in an empty network.
  obtain ⟨builds, refuses⟩ := network.addStack_result accepted served
  obtain ⟨opens, fails⟩ := Network.addStack_result {} accepted served
  constructor
  · intro clear
    refine ⟨builds clear, fun path address environment text given parsed => ?_⟩
    -- The line that is printed follows the warnings, which an accepted configuration still has.
    obtain ⟨stack, built⟩ := opens clear
    obtain ⟨line, told⟩ := describe_outcome_of_ok built address.2
    refine ⟨line, ?_⟩
    rw [Command.outcome, Command.actions, withConfig_eq given parsed, checked_outcome accepted, told]
  · intro cause lost
    refine ⟨refuses cause lost, fun path address environment text given parsed => ?_⟩
    rw [Command.outcome, Command.actions, withConfig_eq given parsed, checked_outcome accepted,
      describe_outcome_of_error (fails cause lost), List.append_nil]

/-- A route through a gateway that only the route in front of it leads to is put in place, next to one
that names its interface and to a translation. -/
theorem gateway_behind_route_built :
    let config : Config := {
      interfaces := [
        { name := "lan", ipv4 := ["10.0.0.1/24"], ipv6 := ["2001:db8:1::1/64"] },
        { name := "wan", ipv4 := ["203.0.113.2/24"] }]
      routing := { staticRoutes := [
        { destination := "0.0.0.0/0", gateway := some "203.0.113.1" },
        { destination := "198.51.100.0/24", gateway := some "192.0.2.1" },
        { destination := "2001:db8:99::/48", gateway := some "2001:db8:1::fe",
          interface := some "lan" }] }
      translation := some { internal := "lan", external := "wan" } }
    config.errors = [] ∧ (∀ route ∈ config.routing.staticRoutes, route.Served config) ∧
      config.refusal? = none ∧ ∃ stack, (Network.addStack {} config .apart).1 = .ok stack := by
  intro config
  have accepted : config.errors = [] := by decide +kernel
  have served : ∀ route ∈ config.routing.staticRoutes, route.Served config := by decide +kernel
  have clear : config.refusal? = none := by decide +kernel
  exact ⟨accepted, served, clear, ((accepted_built_unless_lost {} config accepted served).1 clear).1⟩

/-- A default route through a gateway that nothing leads to is accepted, but there is no stack with it, and
the command that tells a route fails even for a neighbor, `10.0.0.77`. -/
theorem accepted_gateway_lost :
    let config : Config := {
      interfaces := [{ name := "eth0", ipv4 := ["10.0.0.1/24"] }]
      routing := { staticRoutes := [{ destination := "0.0.0.0/0", gateway := some "192.0.2.1" }] } }
    config.errors = [] ∧ (∀ stack, (Network.addStack {} config .apart).1 ≠ .ok stack) ∧
      Outcome.ofActions (Command.checked config
          (Command.describe config (.ofNat 0x0A00004D : Address .v4))) =
        ⟨1, [], [failureLine ("Failed to build routing table: " ++
          (Error.nextHopUnreachable "192.0.2.1").message)], []⟩ := by
  intro config
  have refused : (Network.addStack {} config .apart).1.toOption = none := by decide +kernel
  refine ⟨by decide +kernel, fun stack built => ?_, by decide +kernel⟩
  rw [built] at refused
  cases refused

end Config

end NetworkLayer
