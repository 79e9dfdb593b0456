import NetworkLayer.Proofs.Assembly.Acceptance
import NetworkLayer.Proofs.Assembly.Interfaces

/-!
The configured routes of a stack while it is assembled. A route that names its interface is put in place;
one that only has a gateway takes the interface of a route to it, and is refused if there is none yet.
-/

namespace NetworkLayer

/-- The gateway of a route without an interface, if nothing in front of the route leads there. -/
def StaticRoute.lost? (route : StaticRoute) (interfaces : List InterfaceConfig)
    (before : List StaticRoute) : Option (Address route.family) :=
  match route.interface with
  | some _ => none
  | none => (route.gateway.bind fun text => Address.parse? route.family text.toList).filter
      fun gateway => !(Assembly.destinations route.family interfaces before).any (·.covers gateway)

/-- Why the routes of a configuration cannot be put in place: the first gateway that is not reached. -/
def Config.refusal? (config : Config) : Option Error :=
  config.routing.staticRoutes.zipIdx.findSome? fun (route, index) =>
    (route.lost? config.interfaces (config.routing.staticRoutes.take index)).map
      fun gateway => .nextHopUnreachable gateway.render

/-- The interface that a route names, if it is there, has an address of the family of the route. -/
def StaticRoute.Served (config : Config) (route : StaticRoute) : Prop :=
  ∀ name ∈ route.interface, ∀ interface ∈ config.interface? name,
    interface.addresses route.family ≠ []

instance (config : Config) (route : StaticRoute) : Decidable (route.Served config) :=
  inferInstanceAs (Decidable (∀ name ∈ route.interface, ∀ interface ∈ config.interface? name,
    interface.addresses route.family ≠ []))

namespace Assembly

variable {family : Family} {interfaces : List InterfaceConfig} {before : List StaticRoute}
  {stack : Stack} {network : Network}

/-- An interface with addresses of a family is found there by its name. -/
theorem Holds.find (holds : Holds family interfaces before stack network)
    {interface : InterfaceConfig} (member : interface ∈ interfaces)
    (present : interface.addresses family ≠ []) :
    ∃ id, stack.find family interface.name = .ok id ∧
      (interface.name, id) ∈ stack.interfaces family := by
  -- The interfaces of the stack have the names of those with addresses, in order.
  have listed : interface.name ∈ (stack.interfaces family).map Prod.fst := by
    rw [holds.named]
    exact List.mem_map_of_mem (List.mem_filter.mpr ⟨member, by simpa using present⟩)
  -- A name that is listed is found, and what is found under it is listed.
  cases found : stack.interface? family interface.name with
  | none =>
    obtain ⟨entry, there, same⟩ := List.mem_map.mp listed
    have other := List.lookup_eq_none_iff.mp found entry there
    simp [same] at other
  | some id =>
    refine ⟨id, by rw [Stack.find, found, orRefuse], ?_⟩
    obtain ⟨front, rest, split, -⟩ := List.lookup_eq_some_iff.mp found
    rw [split]
    exact List.mem_append_right _ List.mem_cons_self

/-- The first interface of a name is one of them. -/
theorem mem_of_interface? {config : Config} {name : String} {interface : InterfaceConfig}
    (found : config.interface? name = some interface) :
    interface ∈ config.interfaces ∧ interface.name = name :=
  ⟨List.mem_of_find?_eq_some found, by simpa using List.find?_some found⟩

/-- A route of the other family leads nowhere in this one. -/
theorem destinations_append_of_ne {route : StaticRoute} (different : family ≠ route.family) :
    destinations family interfaces (before ++ [route]) = destinations family interfaces before := by
  have other : (route.family == family) = false := beq_false_of_ne different.symm
  simp [destinations, List.filter_append, other]

/-- A route leads to its destination. -/
theorem destinations_append {route : StaticRoute} {destination : Destination route.family}
    (read : Destination.parse route.family route.destination = .ok destination) :
    destinations route.family interfaces (before ++ [route]) =
      destinations route.family interfaces before ++ [destination] := by
  simp [destinations, List.filter_append, read, Except.toOption]

section Route

variable {config : Config} {route : StaticRoute}

/-- The gateway of a route is read, if it has one. -/
theorem gateway_read (sound : route.Sound config) : ∃ gateway,
    (route.gateway.mapM fun text =>
      orRefuse (.gatewayText route.family text) (Address.parse? route.family text.toList)) =
        .ok gateway ∧
      gateway = route.gateway.bind fun text => Address.parse? route.family text.toList := by
  -- Without a gateway there is nothing to read, and a sound one can be read.
  cases given : route.gateway with
  | none => exact ⟨none, rfl, rfl⟩
  | some text =>
    obtain ⟨gateway, read⟩ := sound.gateway text given
    refine ⟨some gateway, ?_, by rw [Option.bind_some, read]⟩
    simp only [Option.mapM_some, read, orRefuse]
    rfl

/-- A route that names its interface goes to the end of the table. -/
theorem withRoute_of_named (sound : route.Sound config) (served : route.Served config)
    {destination : Destination route.family}
    (read : Destination.parse route.family route.destination = .ok destination)
    (holds : Holds route.family config.interfaces before stack network) {name : String}
    (named : route.interface = some name) (table : RoutingTable route.family) :
    ∃ placed, placed.destination = destination ∧
      withRoute stack table route = .ok (table.add placed) := by
  -- The name is one of the configuration, and the stack has it in this family.
  obtain ⟨interface, there⟩ := sound.interface name named
  obtain ⟨member, rfl⟩ := mem_of_interface? there
  obtain ⟨id, found, -⟩ := holds.find member (served _ named interface there)
  obtain ⟨gateway, told, -⟩ := gateway_read sound
  refine ⟨.configured destination gateway id, rfl, ?_⟩
  simp only [withRoute, read, told, named, found]
  rfl

/-- A route that only has a gateway goes through the interface that the table leads to it by. -/
theorem withRoute_of_gateway (sound : route.Sound config) {destination : Destination route.family}
    (read : Destination.parse route.family route.destination = .ok destination)
    (free : route.interface = none) (stack : Stack) (table : RoutingTable route.family) :
    ∃ gateway, (route.gateway.bind fun text => Address.parse? route.family text.toList) =
        some gateway ∧
      withRoute stack table route = table.addVia destination gateway := by
  -- Without an interface a sound route has a gateway, and the text of that spells an address.
  obtain ⟨text, given⟩ := sound.leads free
  obtain ⟨address, spelled⟩ := sound.gateway text given
  obtain ⟨gateway, told, same⟩ := gateway_read sound
  have alone : (route.gateway.bind fun text => Address.parse? route.family text.toList) =
      some address := by
    rw [given, Option.bind_some, spelled]
  obtain rfl := same.trans alone
  refine ⟨address, alone, ?_⟩
  simp only [withRoute, read, told, free]
  rfl

/-- A route goes to the end of the table, unless it is lost. -/
theorem withRoute_ends (sound : route.Sound config) (served : route.Served config)
    {destination : Destination route.family}
    (read : Destination.parse route.family route.destination = .ok destination)
    (holds : Holds route.family config.interfaces before stack network)
    {station : Station route.family}
    (leads : ∀ destination, station.LeadsTo destination ↔
      destination ∈ destinations route.family config.interfaces before) :
    match route.lost? config.interfaces before with
    | none => ∃ placed, placed.destination = destination ∧
        withRoute stack station.node.table route = .ok (station.node.table.add placed)
    | some gateway => withRoute stack station.node.table route =
        .error (.nextHopUnreachable gateway.render) := by
  rw [StaticRoute.lost?]
  -- A named interface never loses a route, so only those with a gateway alone are in question.
  cases named : route.interface with
  | some name => exact withRoute_of_named sound served read holds named _
  | none =>
    obtain ⟨gateway, alone, placing⟩ :=
      withRoute_of_gateway sound read named stack station.node.table
    -- Whether the table has a way to the gateway is told by the configuration alone.
    have reached : (station.node.table.routeFor gateway).isSome ↔
        (destinations route.family config.interfaces before).any (·.covers gateway) := by
      rw [← Station.routeFor, Station.routeFor_isSome_iff, List.any_eq_true]
      exact exists_congr fun other => and_congr_left fun _ => leads other
    rw [placing, alone, RoutingTable.addVia, Option.filter_some]
    cases found : station.node.table.routeFor gateway with
    | some way =>
      have covered := reached.mp (Option.isSome_iff_exists.mpr ⟨way, found⟩)
      rw [covered]
      exact ⟨_, rfl, rfl⟩
    | none =>
      have bare := mt reached.mpr (by simp [found])
      rw [Bool.not_eq_true] at bare
      rw [bare]
      rfl

/-- A route that is put in place leads to its destination, and changes nothing in the other family. -/
theorem Holds.placed {interfaces : List InterfaceConfig}
    (holds : ∀ family, Holds family interfaces before stack network)
    {station : Station route.family}
    (there : network.station? route.family (stack.node route.family) = some station)
    {placed : Route route.family}
    (read : Destination.parse route.family route.destination = .ok placed.destination) :
    ∀ family, Holds family interfaces (before ++ [route]) stack
      (network.onNode route.family (stack.node route.family) fun node =>
        { node with table := station.node.table.add placed }) := by
  intro family
  have beside : Network.Beside route.family network
      (network.onNode route.family (stack.node route.family) fun node =>
        { node with table := station.node.table.add placed }) := .onSide _ _
  -- The table changes in the family of the route, and nothing does in the other one.
  by_cases same : family = route.family
  · subst same
    obtain ⟨named, distinct, issued, other, known, leads, lives⟩ := holds route.family
    cases there.symm.trans known
    refine ⟨named, distinct, fun entry listed => Nat.lt_of_lt_of_le (issued entry listed) beside.fresh,
      _, Network.onNode_station there _, fun destination => ?_, lives⟩
    rw [destinations_append read, List.mem_append, ← leads]
    simp [Station.LeadsTo, RoutingTable.add, or_and_right, exists_or, eq_comm]
  · have kept := (holds family).apart same ⟨fun _ => rfl, fun _ _ => rfl, beside⟩
    refine ⟨kept.named, kept.distinct, kept.issued, ?_⟩
    rw [destinations_append_of_ne same]
    exact kept.station

/-- A route is put in place, unless it is lost. -/
theorem addRoute_ends (sound : route.Sound config) (served : route.Served config)
    (holds : ∀ family, Holds family config.interfaces before stack network) :
    Ends (addRoute stack route) network
      ((route.lost? config.interfaces before).map fun gateway => .nextHopUnreachable gateway.render)
      fun _ after => ∀ family, Holds family config.interfaces (before ++ [route]) stack after := by
  -- The destination is read and the station is known before anything is placed.
  obtain ⟨destination, read⟩ := sound.destination
  obtain ⟨station, there, leads, lives⟩ := (holds route.family).station
  have placing := withRoute_ends sound served read (holds route.family) leads
  refine returns_get.ends ?_
  rw [there]
  dsimp only
  -- The route ends the assembly or becomes the last one, as the configuration says.
  cases lost : route.lost? config.interfaces before with
  | some gateway =>
    rw [lost] at placing
    exact (refused_lift placing).bind
  | none =>
    rw [lost] at placing
    obtain ⟨placed, leading, added⟩ := placing
    refine (returns_lift added).bind ((returns_modify _).yields ?_)
    subst leading
    exact Holds.placed holds there read

/-- The routes are put in place one after the other, up to the first that is lost. -/
theorem addRoutes_ends (sound : ∀ route ∈ config.routing.staticRoutes, route.Sound config)
    (served : ∀ route ∈ config.routing.staticRoutes, route.Served config)
    (holds : ∀ family, Holds family config.interfaces [] stack network) :
    Ends (config.routing.staticRoutes.forM (addRoute stack)) network config.refusal?
      fun _ after => ∀ family,
        Holds family config.interfaces config.routing.staticRoutes stack after := by
  generalize all : config.routing.staticRoutes = routes at sound served
  -- The routes in place are those in front of the index that the first of the others has.
  suffices goes : ∀ before left, before ++ left = routes → ∀ network,
      (∀ family, Holds family config.interfaces before stack network) →
      Ends (left.forM (addRoute stack)) network
        ((left.zipIdx before.length).findSome? fun entry =>
          (entry.1.lost? config.interfaces (routes.take entry.2)).map
            fun gateway => .nextHopUnreachable gateway.render)
        fun _ after => ∀ family, Holds family config.interfaces routes stack after by
    rw [Config.refusal?, all]
    exact goes [] routes rfl network holds
  intro before left
  -- The induction is on the routes that are left, with those in front as what is in place.
  induction left generalizing before with
  | nil =>
    intro split network holds
    rw [List.append_nil] at split
    rw [← split]
    exact returns_pure.yields holds
  | cons route rest ih =>
    intro split network holds
    have member : route ∈ routes := split ▸ List.mem_append_right _ List.mem_cons_self
    have front : routes.take before.length = before := by rw [← split, List.take_left]
    have placing := addRoute_ends (sound route member) (served route member) holds
    rw [List.zipIdx_cons, List.findSome?_cons]
    dsimp only
    rw [front]
    -- The first route that is lost ends the run, and behind any other one the rest goes on.
    cases lost : route.lost? config.interfaces before with
    | some gateway =>
      rw [lost] at placing
      exact Refused.bind placing
    | none =>
      rw [lost] at placing
      refine Yields.ends placing fun _ after placed => ?_
      have later := ih (before ++ [route]) (by rw [List.append_assoc, ← split]; rfl) after placed
      rw [List.length_append] at later
      exact later

end Route

end Assembly

end NetworkLayer
