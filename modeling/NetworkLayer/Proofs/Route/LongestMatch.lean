import Mathlib.Data.List.MinMax
import Mathlib.Data.List.Nodup
import NetworkLayer.Proofs.Prefix
import NetworkLayer.Proofs.Route

/-!
Longest prefix match. Main statement: the route for an address is the first one to the very host, or else the
earliest of the longest that contain the address, and among routes with distinct destinations their order makes
no difference.
-/

namespace NetworkLayer

variable {family : Family}

/-- The first of the greatest elements exceeds all in front of it, and none behind it exceeds it. -/
theorem argmax_eq_some_iff_append {α : Type} [DecidableEq α] {rank : α → Nat} {elements : List α}
    {best : α} : elements.argmax rank = some best ↔ ∃ front back, elements = front ++ best :: back ∧
      (∀ other ∈ front, rank other < rank best) ∧ ∀ other ∈ back, rank other ≤ rank best := by
  -- The library says that the best element is at least as great as all, and the first such.
  rw [List.argmax_eq_some_iff]
  constructor
  · rintro ⟨member, greatest, earliest⟩
    obtain ⟨front, back, rfl, absent⟩ := List.eq_append_cons_of_mem member
    refine ⟨front, back, rfl, fun other ahead => ?_, fun other behind =>
      greatest other (List.mem_append_right _ (List.mem_cons_of_mem _ behind))⟩
    -- One in front that is as great would have been taken first.
    refine Nat.lt_of_not_le fun reached => ?_
    have place := earliest other (List.mem_append_left _ ahead) reached
    rw [List.idxOf_append_of_notMem absent, List.idxOf_append_of_mem ahead] at place
    have before := List.idxOf_lt_length_iff.mpr ahead
    omega
  · -- The other way, its place is found behind those that are less.
    rintro ⟨front, back, rfl, less, atMost⟩
    have absent : best ∉ front := fun ahead => Nat.lt_irrefl _ (less best ahead)
    refine ⟨List.mem_append_right _ List.mem_cons_self, fun other member => ?_,
      fun other _ reached => ?_⟩
    · rcases List.mem_append.mp member with ahead | here
      · exact Nat.le_of_lt (less other ahead)
      · rcases List.mem_cons.mp here with rfl | behind
        · exact Nat.le_refl _
        · exact atMost other behind
    · have later : other ∉ front := fun ahead => Nat.not_le_of_lt (less other ahead) reached
      rw [List.idxOf_append_of_notMem absent, List.idxOf_append_of_notMem later,
        List.idxOf_cons_self]
      exact Nat.add_le_add_left (Nat.zero_le _) _

namespace RoutingTable

variable {address : Address family} {routes : List (Route family)} {route : Route family}

/-- The route that a list of routes has for an address. -/
inductive Selected (address : Address family) (routes : List (Route family))
    (route : Route family) : Prop
  /-- It is the first one to the very host. -/
  | host {front back : List (Route family)} (parts : routes = front ++ route :: back)
      (own : route.destination = .host address)
      (first : ∀ other ∈ front, other.destination ≠ .host address)
  /-- No route leads to the very host, and it is the earliest of the longest that contain the address. -/
  | net {front back : List (Route family)} {range : Prefix family}
      (parts : routes = front ++ route :: back)
      (hostless : ∀ other ∈ routes, other.destination ≠ .host address)
      (own : route.destination = .net range) (inside : range.contains address)
      (earliest : ∀ other ∈ front, other.destination.covers address →
        other.destination.significant < range.length)
      (longest : ∀ other ∈ back, other.destination.covers address →
        other.destination.significant ≤ range.length)

/-- A longer route takes the place of a candidate as a greater element does. -/
theorem longer_eq_argAux : (longer : Option (Route family) → Route family → _) =
    List.argAux fun route found => found.destination.significant < route.destination.significant := by
  funext best route
  cases best <;> rfl

/-- The search finds the first route to the very host, or else the longest that covers the address. -/
theorem search_eq (address : Address family) (best : Option (Route family))
    (routes : List (Route family)) : search address best routes =
      (routes.find? (·.destination == .host address)).or
        ((routes.filter (·.destination.covers address)).foldl longer best) := by
  -- Induction on the routes: a host route for the very address ends the search, and every other route may be
  -- the longest so far.
  induction routes generalizing best with
  | nil => rfl
  | cons route rest ih =>
    rw [search]
    cases shape : route.destination with
    | host own =>
      by_cases same : own = address
      · simp [shape, same]
      · simp [shape, same, ih]
    | net range =>
      by_cases inside : range.contains address
      · simp [shape, inside, ih]
      · simp [shape, inside, ih]

/-- The route for an address is the first to the very host, or else the earliest of the longest. -/
theorem routeFor_eq (table : RoutingTable family) (address : Address family) :
    table.routeFor address = (table.routes.find? (·.destination == .host address)).or
      ((table.routes.filter (·.destination.covers address)).argmax (·.destination.significant)) := by
  rw [routeFor, search_eq, longer_eq_argAux]
  rfl

/-- The table has a route for an address exactly if that one is selected. -/
theorem routeFor_eq_some_iff {table : RoutingTable family} :
    table.routeFor address = some route ↔ Selected address table.routes route := by
  -- The search is a first match among host routes, and the first of the longest among those that cover the
  -- address.
  rw [routeFor_eq, Option.or_eq_some_iff, List.find?_eq_some_iff_append, List.find?_eq_none,
    argmax_eq_some_iff_append]
  constructor
  · rintro (⟨own, front, back, parts, first⟩ | ⟨hostless, front, back, parts, less, atMost⟩)
    · exact .host parts (eq_of_beq own) (by simpa using first)
    · -- Between the routes that cover the address there may be others.
      obtain ⟨left, right, whole, rfl, after⟩ := List.filter_eq_append_iff.mp parts
      obtain ⟨gap, rest, rfl, skipped, covered, rfl⟩ := List.filter_eq_cons_iff.mp after
      have hostless : ∀ other ∈ table.routes, other.destination ≠ .host address := by
        simpa using hostless
      have member : route ∈ table.routes := by simp [whole]
      cases shape : route.destination with
      | host own =>
        rw [shape, Destination.covers_host] at covered
        exact absurd (eq_of_beq covered ▸ shape) (hostless route member)
      | net range =>
        rw [shape] at covered less atMost
        have parts : table.routes = (left ++ gap) ++ route :: rest := by simp [whole]
        refine .net parts hostless shape covered
          (fun other ahead covers => ?_) fun other behind covers =>
            atMost other (List.mem_filter.mpr ⟨behind, covers⟩)
        rcases List.mem_append.mp ahead with early | between
        · exact less other (List.mem_filter.mpr ⟨early, covers⟩)
        · exact absurd covers (skipped other between)
  · -- The other way, the routes that do not cover the address are left out on both sides.
    rintro (⟨parts, own, first⟩ | @⟨front, back, range, parts, hostless, own, inside, earliest, longest⟩)
    · exact Or.inl ⟨by simp [own], _, _, parts, by simpa using first⟩
    · refine Or.inr ⟨by simpa using hostless, front.filter (·.destination.covers address),
        back.filter (·.destination.covers address), ?_, fun other ahead => ?_, fun other behind => ?_⟩
      · rw [parts, List.filter_append, List.filter_cons_of_pos (by simpa [own] using inside)]
      · obtain ⟨among, covers⟩ := List.mem_filter.mp ahead
        rw [own]
        exact earliest other among covers
      · obtain ⟨among, covers⟩ := List.mem_filter.mp behind
        rw [own]
        exact longest other among covers

/-- A selected route is one of the list. -/
theorem Selected.mem (selected : Selected address routes route) : route ∈ routes := by
  rcases selected with ⟨rfl, _, _⟩ | ⟨rfl, _, _, _, _, _⟩ <;> simp

/-- A selected network is as long as any destination of the list that covers the address. -/
theorem Selected.le_length {range : Prefix family} (selected : Selected address routes route)
    (own : route.destination = .net range) {other : Route family} (member : other ∈ routes)
    (covers : other.destination.covers address) : other.destination.significant ≤ range.length := by
  -- A host route is no network, and for a network the rule says it of each side.
  rcases selected with ⟨_, host, _⟩ | ⟨rfl, _, net, _, earliest, longest⟩
  · cases own.symm.trans host
  · obtain rfl := Destination.net.inj (own.symm.trans net)
    rcases List.mem_append.mp member with ahead | here
    · exact Nat.le_of_lt (earliest other ahead covers)
    · rcases List.mem_cons.mp here with rfl | behind
      · rw [own]
        exact Nat.le_refl _
      · exact longest other behind covers

/-- A selected route leads to the very host, or there is none that does and its network has the address. -/
theorem Selected.kind (selected : Selected address routes route) :
    route.destination = .host address ∨ ∃ range, route.destination = .net range ∧
      range.contains address ∧ ∀ other ∈ routes, other.destination ≠ .host address := by
  cases selected with
  | host _ own _ => exact Or.inl own
  | net _ hostless own inside _ _ => exact Or.inr ⟨_, own, inside, hostless⟩

/-- Lists with the same routes select routes to one destination. -/
theorem Selected.destination_eq {others : List (Route family)} {other : Route family}
    (selected : Selected address routes route) (again : Selected address others other)
    (same : ∀ route, route ∈ routes ↔ route ∈ others) : route.destination = other.destination := by
  have here := (same route).mp selected.mem
  have there := (same other).mpr again.mem
  rcases selected.kind with host | ⟨one, own, inOne, hostless⟩
  · rcases again.kind with likewise | ⟨_, _, _, hostless⟩
    · exact host.trans likewise.symm
    · exact absurd host (hostless route here)
  · rcases again.kind with host | ⟨another, likewise, inOther, _⟩
    · exact absurd host (hostless other there)
    · -- Each of the two is at least as long as the other, and both contain the address.
      have less := selected.le_length own there (likewise ▸ inOther)
      have more := again.le_length likewise here (own ▸ inOne)
      rw [likewise] at less
      rw [own] at more
      rw [own, likewise, Prefix.eq_of_contains (Nat.le_antisymm more less) inOne inOther]

/--
The route for an address is exact: there is none if no destination covers the address, and otherwise it is the
first one to the very host or the earliest of the longest networks. If no two routes have one destination,
every order of them gives the same route.
-/
theorem routeFor_selects (table : RoutingTable family) (address : Address family) :
    (table.routeFor address = none ↔
      ∀ route ∈ table.routes, route.destination.covers address = false) ∧
    (∀ route, table.routeFor address = some route ↔ Selected address table.routes route) ∧
    ((table.routes.map (·.destination)).Nodup → ∀ other : RoutingTable family,
      other.routes.Perm table.routes → other.routeFor address = table.routeFor address) := by
  refine ⟨?_, fun route => routeFor_eq_some_iff, fun distinct other reordered => ?_⟩
  · rw [← Option.not_isSome_iff_eq_none, routeFor_isSome_iff]
    simp
  · cases found : table.routeFor address with
    | none =>
      -- Another order has the same routes, so none of them covers the address.
      rw [← Option.not_isSome_iff_eq_none, routeFor_isSome_iff] at found ⊢
      simpa only [reordered.mem_iff] using found
    | some route =>
      have selected := routeFor_eq_some_iff.mp found
      have reached : (other.routeFor address).isSome := by
        rw [routeFor_isSome_iff]
        simp only [reordered.mem_iff]
        exact routeFor_isSome_iff.mp (Option.isSome_of_eq_some found)
      obtain ⟨another, again⟩ := Option.isSome_iff_exists.mp reached
      have chosen := routeFor_eq_some_iff.mp again
      have same := chosen.destination_eq selected fun route => reordered.mem_iff
      rw [again, List.inj_on_of_nodup_map distinct (reordered.mem_iff.mp chosen.mem) selected.mem same]

/-- A table with two networks that contain `10.1.2.9`, and a host in the narrower one. -/
def nested : RoutingTable .v4 :=
  ⟨[.connected (.containing (.ofNat 0x0A000000) 8) 1, .connected (.containing (.ofNat 0x0A010000) 16) 2,
    .configured (.host (.ofNat 0x0A010203)) none 3]⟩

/-- The narrower network is the one for `10.1.2.9`, also if the routes stand the other way round. -/
theorem nested_selects : (nested.routes.map (·.destination)).Nodup ∧
    RoutingTable.routeFor ⟨nested.routes.reverse⟩ (.ofNat 0x0A010209) =
      some (.connected (.containing (.ofNat 0x0A010000) 16) 2) := by
  have distinct : (nested.routes.map (·.destination)).Nodup := by decide +kernel
  have reordered := (routeFor_selects nested (.ofNat 0x0A010209)).2.2 distinct
    ⟨nested.routes.reverse⟩ (List.reverse_perm _)
  exact ⟨distinct, reordered.trans (by decide +kernel)⟩

end RoutingTable

end NetworkLayer
