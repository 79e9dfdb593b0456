import NetworkLayer.InterfaceAddress

/-! Routes and the routing table with its longest prefix match. -/

namespace NetworkLayer

/-- The identity of an interface; two interfaces of one name stay distinct. -/
abbrev InterfaceId := Nat

/-- What a route leads to: a network or a single host. -/
inductive Destination (family : Family)
  | net (range : Prefix family)
  | host (address : Address family)
deriving DecidableEq

namespace Destination

variable {family : Family}

/-- Whether the destination covers an address. -/
def covers : Destination family → Address family → Bool
  | net range, address => range.contains address
  | host own, address => own == address

/-- Number of significant bits. -/
def significant : Destination family → Nat
  | net range => range.length
  | host _ => family.bits

/-- The text of a destination; only a network shows a length. -/
def render : Destination family → String
  | net range => range.render
  | host address => address.render

/-- Reads a network if there is a slash and a host otherwise. -/
def parse (family : Family) (text : String) : Except Error (Destination family) := do
  let cidr ← Cidr.parse family text
  match cidr.length with
  | some length => return net (← Prefix.checked cidr.address length)
  | none => return host cidr.address

end Destination

/-- Where a route comes from. -/
inductive RouteOrigin
  /-- Put in place by an address with an on-link prefix. -/
  | connected
  /-- Put in place by the operator. -/
  | configured
deriving DecidableEq, Repr

/-- A route: what it leads to, the next hop unless directly connected, and the way out. -/
structure Route (family : Family) where
  destination : Destination family
  nextHop : Option (Address family)
  interface : InterfaceId
  origin : RouteOrigin
deriving DecidableEq

namespace Route

variable {family : Family}

/-- A route to the network of a configured address. -/
def connected (net : Prefix family) (interface : InterfaceId) : Route family :=
  ⟨.net net, none, interface, .connected⟩

/-- A route set up by the operator. -/
def configured (destination : Destination family) (nextHop : Option (Address family))
    (interface : InterfaceId) : Route family :=
  ⟨destination, nextHop, interface, .configured⟩

/-- The address that a packet is handed to on the link. -/
def nextHopFor (route : Route family) (address : Address family) : Address family :=
  route.nextHop.getD address

/-- The text of a route, given the names of the interfaces. -/
def render (nameOf : InterfaceId → String) (route : Route family) : String :=
  let via := match route.nextHop with
    | some nextHop => " via " ++ nextHop.render
    | none => ""
  route.destination.render ++ via ++ " dev " ++ nameOf route.interface

end Route

/-- An ordered list of routes. -/
structure RoutingTable (family : Family) where
  routes : List (Route family)
deriving DecidableEq

namespace RoutingTable

variable {family : Family}

/-- The table without routes. -/
def empty : RoutingTable family := ⟨[]⟩

/-- The better of a route found before and a later one: only a strictly longer match replaces. -/
def longer (best : Option (Route family)) (route : Route family) : Option (Route family) :=
  match best with
  | some found =>
    -- Equal lengths leave the earlier route in place.
    if route.destination.significant > found.destination.significant then some route else best
  | none => some route

/-- The search for a route from a candidate on: a route to the very host ends it. -/
def search (address : Address family) :
    Option (Route family) → List (Route family) → Option (Route family)
  | best, [] => best
  | best, route :: rest =>
    match route.destination with
    -- No later match can be longer, so the first host route wins at once.
    | .host own => if own = address then some route else search address best rest
    | .net range =>
      search address (if range.contains address then longer best route else best) rest

/-- The route for an address: the first to the very host, else the earliest of the longest. -/
def routeFor (table : RoutingTable family) (address : Address family) : Option (Route family) :=
  search address none table.routes

/-- The table with a route at the end. -/
def add (table : RoutingTable family) (route : Route family) : RoutingTable family :=
  ⟨table.routes ++ [route]⟩

/-- The table with a route through the interface that leads to the next hop. -/
def addVia (table : RoutingTable family) (destination : Destination family)
    (nextHop : Address family) : Except Error (RoutingTable family) :=
  match table.routeFor nextHop with
  -- Only the way out is taken from the route found, not its own next hop.
  | some route => .ok (table.add (.configured destination (some nextHop) route.interface))
  | none => .error (.nextHopUnreachable nextHop.render)

/-- The table without the routes that a test selects. -/
def without (table : RoutingTable family) (selected : Route family → Bool) :
    RoutingTable family :=
  ⟨table.routes.filter fun route => !selected route⟩

/-- The table without the routes to a destination. -/
def removeAll (table : RoutingTable family) (destination : Destination family) :
    RoutingTable family :=
  table.without (·.destination == destination)

/-- The table without the routes through an interface. -/
def removeInterface (table : RoutingTable family) (interface : InterfaceId) :
    RoutingTable family :=
  table.without (·.interface == interface)

/-- The table with a route in place of all to its destination. -/
def set (table : RoutingTable family) (route : Route family) : RoutingTable family :=
  (table.removeAll route.destination).add route

/-- The table with a route in front of the one at `index`, or at the end. -/
def insert (table : RoutingTable family) (index : Nat) (route : Route family) :
    RoutingTable family :=
  -- An index past the end means the end.
  ⟨table.routes.insertIdx (min index table.routes.length) route⟩

/-- The route at `index` and the table without it. -/
def removeAt (table : RoutingTable family) (index : Nat) :
    Option (Route family) × RoutingTable family :=
  (table.routes[index]?, ⟨table.routes.eraseIdx index⟩)

/-- The first route that a test selects and the table without it. -/
def removeFirst (table : RoutingTable family) (selected : Route family → Bool) :
    Option (Route family) × RoutingTable family :=
  (table.routes.find? selected, ⟨table.routes.eraseP selected⟩)

/-- One route per line, given the names of the interfaces. -/
def render (nameOf : InterfaceId → String) (table : RoutingTable family) : String :=
  String.join (table.routes.map fun route => route.render nameOf ++ "\n")

end RoutingTable

end NetworkLayer
