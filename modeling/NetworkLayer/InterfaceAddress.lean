import NetworkLayer.Prefix

/-! Addresses configured on an interface, with their role and the prefix they put on the link. -/

namespace NetworkLayer

/-- The role of an address on an interface. -/
inductive AddressRole
  | unicast
  | broadcast
  | multicast
deriving DecidableEq, Repr

/-- An address configured on an interface, with the length of its on-link prefix if it has one. -/
structure InterfaceAddress (family : Family) where
  address : Address family
  length : Option Nat
  role : AddressRole
deriving DecidableEq

namespace InterfaceAddress

variable {family : Family}

/-- A unicast address on a prefix of the given length, at most the width. -/
def unicast (address : Address family) (length : Nat) : InterfaceAddress family :=
  ⟨address, some (min length family.bits), .unicast⟩

/-- A unicast address without an on-link prefix. -/
def host (address : Address family) : InterfaceAddress family :=
  ⟨address, none, .unicast⟩

/-- A broadcast address. -/
def broadcast (address : Address family) : InterfaceAddress family :=
  ⟨address, none, .broadcast⟩

/-- A multicast group. -/
def multicast (address : Address family) : InterfaceAddress family :=
  ⟨address, none, .multicast⟩

/-- Whether the address is one station's own. -/
def isUnicast (entry : InterfaceAddress family) : Bool :=
  entry.role == .unicast

/-- The on-link prefix that contains the address. -/
def net? (entry : InterfaceAddress family) : Option (Prefix family) :=
  entry.length.map (Prefix.containing entry.address)

/-- Whether the on-link prefix contains another address. -/
def reaches (entry : InterfaceAddress family) (address : Address family) : Bool :=
  entry.net?.any (·.contains address)

/-- The address, followed by its prefix length if it has one. -/
def render (entry : InterfaceAddress family) : String :=
  match entry.length with
  | some length => entry.address.render ++ "/" ++ Text.decimal length
  | none => entry.address.render

/-- Reads an address: a group keeps no length, and a missing length leaves no on-link prefix. -/
def parse (family : Family) (text : String) : Except Error (InterfaceAddress family) := do
  let cidr ← Cidr.parse family text
  -- A group is joined, not lived on, so it has no prefix.
  if cidr.address.isMulticast then return multicast cidr.address
  match cidr.length with
  | some length => return unicast cidr.address length
  | none => return host cidr.address

end InterfaceAddress

end NetworkLayer
