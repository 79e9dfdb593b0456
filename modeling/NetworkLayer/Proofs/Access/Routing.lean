import NetworkLayer.Node.Basic
import NetworkLayer.Proofs.Access.Checked
import NetworkLayer.Proofs.Prefix

/-!
Prefixes, routes and the addresses of a node, looked up with every difference checked, and masks with
every shift. No mask has a length that its width does not allow.
-/

namespace NetworkLayer

variable {family : Family}

namespace Family

/-- The word with the bits of every address of the family. -/
def checkedWholeMask (family : Family) : Checked (BitVec 128) := do
  Checked.shiftRight (.allOnes 128) (← Checked.difference 128 family.bits)

/-- The word with the first `length` bits of an address. -/
def checkedMask (family : Family) (length : Nat) : Checked (BitVec 128) := do
  let length := min length family.bits
  if length = 0 then return 0
  else
    let next ← Checked.shiftLeft 1#128 (← Checked.difference family.bits length)
    let hosts ← Checked.wordDifference next 1#128
    return (← family.checkedWholeMask) &&& ~~~hosts

/-- The mask of the whole width can be made. -/
theorem checkedWholeMask_eq (family : Family) : family.checkedWholeMask = .ok family.wholeMask := by
  have fewer : 128 - family.bits < 128 := by cases family <;> decide
  rw [checkedWholeMask, Checked.difference_ok family.bits_le, Checked.ok_bind,
    Checked.shiftRight_ok fewer]
  rfl

/-- The mask of every length can be made. -/
theorem checkedMask_eq (family : Family) (length : Nat) :
    family.checkedMask length = .ok (family.mask length) := by
  have fits := family.bits_le
  rw [checkedMask, mask]
  split
  case isTrue => rfl
  case isFalse filled =>
    -- Without the empty mask no shift is by the whole word.
    have fewer : family.bits - min length family.bits < 128 := by omega
    have first : (1#128).toNat ≤ (1#128 <<< (family.bits - min length family.bits)).toNat := by
      rw [← BitVec.twoPow, BitVec.toNat_twoPow_of_lt fewer]
      exact Nat.two_pow_pos _
    rw [Checked.difference_ok (Nat.min_le_right _ _), Checked.ok_bind, Checked.shiftLeft_ok fewer,
      Checked.ok_bind, Checked.wordDifference_ok first, Checked.ok_bind, checkedWholeMask_eq]
    rfl

end Family

namespace Prefix

/-- The address with exactly the host bits set. -/
def checkedHostMask (net : Prefix family) : Checked (Address family) := do
  return .ofWord (~~~(← family.checkedMask net.length) &&& (← family.checkedWholeMask))

/-- The host mask can be made. -/
theorem checkedHostMask_eq (net : Prefix family) : net.checkedHostMask = .ok net.hostMask := by
  rw [checkedHostMask, Family.checkedMask_eq, Checked.ok_bind, Family.checkedWholeMask_eq]
  rfl

/-- The bits behind a prefix of a length, all set. -/
def checkedHosts (family : Family) (length : Nat) : Checked Nat := do
  let length := min length family.bits
  let all := (1 <<< 128 - 1) >>> (← Checked.difference 128 family.bits)
  if length = 0 then return all
  else
    let hosts ← Checked.difference (1 <<< (← Checked.difference family.bits length)) 1
    return all &&& hosts

/-- The prefix of the given length that contains an address. -/
def checkedContaining (address : Address family) (length : Nat) : Checked (Prefix family) := do
  -- The mask clears the bits that the prefix leaves out.
  let _ ← checkedHosts family length
  return containing address length

/-- The prefix of the loopback interface. -/
def checkedLoopback (family : Family) : Checked (Prefix family) := do
  let _ ← checkedHosts family (loopback family).length
  return loopback family

/-- Whether an address starts with the prefix's bits. -/
def checkedContains (net : Prefix family) (address : Address family) : Checked Bool := do
  let hosts ← checkedHosts family net.length
  return address.number - address.number % (hosts + 1) == net.address.number

/-- The highest address. -/
def checkedDirectedBroadcast (net : Prefix family) : Checked (Address family) := do
  return .ofNat (net.address.number + (← checkedHosts family net.length))

/-- The host bits of every length are those that a prefix of it, cut to the width, has behind it. -/
theorem checkedHosts_eq (family : Family) (length : Nat) :
    checkedHosts family length = .ok (family.span (min length family.bits) - 1) := by
  have all : (1 <<< 128 - 1) >>> (128 - family.bits) = 2 ^ family.bits - 1 := by
    cases family <;> decide
  have positive : 0 < 1 <<< (family.bits - min length family.bits) := family.span_pos _
  have small : 1 <<< (family.bits - min length family.bits) ≤ 2 ^ family.bits := by
    rw [Nat.one_shiftLeft]
    exact Nat.pow_le_pow_right (by decide) (Nat.sub_le _ _)
  rw [checkedHosts, Checked.difference_ok family.bits_le, Checked.ok_bind, all]
  -- The empty prefix is a case of its own: shifting by the whole width leaves no bit of a number
  -- of that width.
  by_cases none : min length family.bits = 0
  · rw [if_pos none, none, Family.span, Nat.one_shiftLeft]
    rfl
  · rw [if_neg none, Checked.difference_ok (Nat.min_le_right _ _), Checked.ok_bind,
      Checked.difference_ok positive, Checked.ok_bind, Nat.and_comm,
      Nat.and_two_pow_sub_one_eq_mod, Nat.mod_eq_of_lt (by omega)]
    rfl

/-- The prefix around an address can be made. -/
theorem checkedContaining_eq (address : Address family) (length : Nat) :
    checkedContaining address length = .ok (containing address length) := by
  rw [checkedContaining, checkedHosts_eq]
  rfl

/-- The prefix of the loopback interface can be made. -/
theorem checkedLoopback_eq (family : Family) : checkedLoopback family = .ok (loopback family) := by
  rw [checkedLoopback, checkedHosts_eq]
  rfl

/-- It can be told whether a prefix contains an address. -/
theorem checkedContains_eq (net : Prefix family) (address : Address family) :
    net.checkedContains address = .ok (net.contains address) := by
  rw [checkedContains, checkedHosts_eq, Checked.ok_bind, Nat.min_eq_left net.length_le,
    Nat.sub_add_cancel (family.span_pos net.length), ← net.contains_eq]
  rfl

/-- The highest address can be told. -/
theorem checkedDirectedBroadcast_eq (net : Prefix family) :
    net.checkedDirectedBroadcast = .ok net.directedBroadcast := by
  rw [checkedDirectedBroadcast, checkedHosts_eq, Checked.ok_bind, Nat.min_eq_left net.length_le,
    ← net.number_directedBroadcast, Address.ofNat_number]
  rfl

end Prefix

namespace InterfaceAddress

/-- The on-link prefix that contains the address. -/
def checkedNet? (entry : InterfaceAddress family) : Checked (Option (Prefix family)) :=
  match entry.length with
  | none => .ok none
  | some length => do return some (← Prefix.checkedContaining entry.address length)

/-- Whether the on-link prefix contains another address. -/
def checkedReaches (entry : InterfaceAddress family) (address : Address family) :
    Checked Bool := do
  match ← entry.checkedNet? with
  | none => return false
  | some net => net.checkedContains address

/-- The on-link prefix can be made. -/
theorem checkedNet?_eq (entry : InterfaceAddress family) :
    entry.checkedNet? = .ok entry.net? := by
  rw [checkedNet?, net?]
  cases entry.length with
  | none => rfl
  | some length =>
    simp only [Prefix.checkedContaining_eq, Checked.ok_bind]
    rfl

/-- It can be told whether an on-link prefix contains an address. -/
theorem checkedReaches_eq (entry : InterfaceAddress family) (address : Address family) :
    entry.checkedReaches address = .ok (entry.reaches address) := by
  rw [checkedReaches, checkedNet?_eq, Checked.ok_bind, reaches]
  cases entry.net? with
  | none => rfl
  | some net => exact net.checkedContains_eq address

end InterfaceAddress

namespace RoutingTable

/-- The search for a route from a candidate on. -/
def checkedSearch (address : Address family) :
    Option (Route family) → List (Route family) → Checked (Option (Route family))
  | best, [] => .ok best
  | best, route :: rest =>
    match route.destination with
    | .host own => if own = address then .ok (some route) else checkedSearch address best rest
    | .net range => do
      checkedSearch address (if ← range.checkedContains address then longer best route else best)
        rest

/-- The search for a route can be made. -/
theorem checkedSearch_eq (address : Address family) (best : Option (Route family))
    (routes : List (Route family)) :
    checkedSearch address best routes = .ok (search address best routes) := by
  -- The induction is on the routes that are left, for any candidate so far.
  induction routes generalizing best with
  | nil => rfl
  | cons route rest ih =>
    rw [checkedSearch, search]
    cases route.destination with
    | host own =>
      simp only [ih]
      split
      · rfl
      · rfl
    | net range => simp only [Prefix.checkedContains_eq, Checked.ok_bind, ih]

end RoutingTable

namespace Interface

/-- Whether packets to an address are for this interface. -/
def checkedHasAddress (interface : Interface family) (address : Address family) :
    Checked Bool := do
  let looped ← if interface.medium == .loopback then do
      (← Prefix.checkedLoopback family).checkedContains address
    else .ok false
  return looped || interface.lists address

/-- It can be told whether packets to an address are for an interface. -/
theorem checkedHasAddress_eq (interface : Interface family) (address : Address family) :
    interface.checkedHasAddress address = .ok (interface.hasAddress address) := by
  rw [checkedHasAddress, hasAddress, Prefix.checkedLoopback_eq, Checked.ok_bind,
    Prefix.checkedContains_eq]
  cases interface.medium == .loopback with
  | false => rfl
  | true => rfl

end Interface

namespace Station

variable (station : Station family)

/-- Whether an address is the node's, groups and the loopback prefix included. -/
def checkedHasAddress (address : Address family) : Checked Bool := do
  if ← (station.interfaces.at station.node.loopback).checkedHasAddress address then return true
  else station.attached.anyM (·.checkedHasAddress address)

/-- Whether a unicast address is the node's, the loopback prefix included. -/
def checkedOwnsUnicast (address : Address family) : Checked Bool := do
  if ← (← Prefix.checkedLoopback family).checkedContains address then return true
  else return station.attached.any fun interface =>
    interface.addresses.any fun entry => entry.address == address && entry.isUnicast

/-- The route for an address. -/
def checkedRouteFor (address : Address family) : Checked (Option (Route family)) :=
  RoutingTable.checkedSearch address none station.node.table.routes

/-- The own address on a route. -/
def checkedSourceOn? (route : Route family) (destination : Address family) :
    Checked (Option (Address family)) := do
  let nextHop := route.nextHopFor destination
  let unicast := (station.interfaces.at route.interface).addresses.filter (·.isUnicast)
  let near ← unicast.findM? fun entry => do
    if ← entry.checkedReaches nextHop then return true else entry.checkedReaches destination
  return (near <|> unicast.head?).map (·.address)

/-- The source of packets that start at the node. -/
def checkedSourceFor? (destination : Address family) : Checked (Option (Address family)) := do
  let looped ← (← Prefix.checkedLoopback family).checkedContains destination
  if looped then return some (.loopback family)
  else if destination.isMulticast then return station.firstAddress?
  else match ← station.checkedRouteFor destination with
    | none => return none
    | some route => station.checkedSourceOn? route destination

/-- It can be told whether an address is the node's. -/
theorem checkedHasAddress_eq (address : Address family) :
    station.checkedHasAddress address = .ok (station.hasAddress address) := by
  rw [checkedHasAddress, Interface.checkedHasAddress_eq, Checked.ok_bind,
    Checked.anyM_ok fun interface => interface.checkedHasAddress_eq address, hasAddress]
  cases (station.interfaces.at station.node.loopback).hasAddress address with
  | false => rfl
  | true => rfl

/-- It can be told whether a unicast address is the node's. -/
theorem checkedOwnsUnicast_eq (address : Address family) :
    station.checkedOwnsUnicast address = .ok (station.ownsUnicast address) := by
  rw [checkedOwnsUnicast, Prefix.checkedLoopback_eq, Checked.ok_bind, Prefix.checkedContains_eq,
    Checked.ok_bind, ownsUnicast]
  cases (Prefix.loopback family).contains address with
  | false => rfl
  | true => rfl

/-- The route for an address can be looked up. -/
theorem checkedRouteFor_eq (address : Address family) :
    station.checkedRouteFor address = .ok (station.routeFor address) :=
  RoutingTable.checkedSearch_eq address none station.node.table.routes

/-- The own address on a route can be chosen. -/
theorem checkedSourceOn?_eq (route : Route family) (destination : Address family) :
    station.checkedSourceOn? route destination = .ok (station.sourceOn? route destination) := by
  have near (entry : InterfaceAddress family) : (do
      if ← entry.checkedReaches (route.nextHopFor destination) then return true
      else entry.checkedReaches destination) =
      (.ok (entry.reaches (route.nextHopFor destination) || entry.reaches destination) :
        Checked Bool) := by
    -- The prefix is tried for the destination only if it does not reach the next hop.
    rw [InterfaceAddress.checkedReaches_eq, Checked.ok_bind, InterfaceAddress.checkedReaches_eq]
    cases entry.reaches (route.nextHopFor destination) with
    | false => rfl
    | true => rfl
  rw [checkedSourceOn?, Checked.findM?_ok near]
  rfl

/-- The source of packets that start at the node can be chosen. -/
theorem checkedSourceFor?_eq (destination : Address family) :
    station.checkedSourceFor? destination = .ok (station.sourceFor? destination) := by
  rw [checkedSourceFor?, Prefix.checkedLoopback_eq, Checked.ok_bind, Prefix.checkedContains_eq,
    Checked.ok_bind, checkedRouteFor_eq, sourceFor?]
  -- Each source is chosen in the same order, and only the last choice needs the addresses of an interface.
  split
  · rfl
  · split
    · rfl
    · rw [Checked.ok_bind]
      cases station.routeFor destination with
      | none => rfl
      | some route => exact station.checkedSourceOn?_eq route destination

end Station

end NetworkLayer
