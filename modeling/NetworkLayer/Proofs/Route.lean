import NetworkLayer.Route

/-! The route that a table has for an address. -/

namespace NetworkLayer

variable {family : Family}

namespace Destination

/-- A network covers the addresses of its prefix. -/
@[simp] theorem covers_net (range : Prefix family) (address : Address family) :
    (net range).covers address = range.contains address := rfl

/-- A host covers its own address. -/
@[simp] theorem covers_host (own address : Address family) :
    (host own).covers address = (own == address) := rfl

end Destination

namespace RoutingTable

variable {table : RoutingTable family} {address : Address family}

/-- Once there is a candidate, the search ends with a route. -/
theorem search_isSome_of_best (routes : List (Route family)) (best : Route family) :
    (search address (some best) routes).isSome := by
  -- The candidate changes on the way, but it is never lost, so the induction holds for each of them.
  induction routes generalizing best with
  | nil => rfl
  | cons route rest ih =>
    rw [search]
    split
    · split
      · rfl
      · exact ih best
    · split
      · rw [longer]
        split
        · exact ih route
        · exact ih best
      · exact ih best

/-- A table has a route for exactly the addresses that a destination of its routes covers. -/
theorem routeFor_isSome_iff : (table.routeFor address).isSome ↔
    ∃ route ∈ table.routes, route.destination.covers address := by
  rcases table with ⟨routes⟩
  rw [routeFor]
  -- The first route that covers the address becomes the candidate.
  induction routes with
  | nil => simp [search]
  | cons route rest ih =>
    rw [search]
    simp only [List.mem_cons, exists_eq_or_imp]
    cases route.destination with
    | host own =>
      by_cases same : own = address
      -- A route to the very host ends the search at once.
      · simp [same]
      · simp [same, ih]
    | net range =>
      by_cases inside : range.contains address
      · simp [inside, longer, search_isSome_of_best]
      · simp [inside, ih]

end RoutingTable

end NetworkLayer
