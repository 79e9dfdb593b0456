import NetworkLayer.Adapter
import NetworkLayer.Route

/-! Network interfaces: a name, addresses, listeners, and the medium behind them. -/

namespace NetworkLayer

/-- The identity of a node. -/
abbrev NodeId := Nat

/-- The identity of a tap. -/
abbrev TapId := Nat

/-- The identity of a link. -/
abbrev LinkId := Nat

/-- Who is handed the packets of an interface. -/
inductive Listener
  | node (node : NodeId)
  | tap (tap : TapId)
deriving DecidableEq, Repr

/-- Where the packets of an interface go. -/
inductive Medium (family : Family)
  /-- Straight back to the own listeners. -/
  | loopback
  /-- To the other interfaces of a link. -/
  | link (link : LinkId)
  /-- Into Ethernet frames. -/
  | ethernet (adapter : Adapter family)
deriving DecidableEq

/-- A network interface. -/
structure Interface (family : Family) where
  name : String
  addresses : List (InterfaceAddress family)
  medium : Medium family
  running : Bool := true
  listeners : List Listener := []
  /-- Listeners that are handed every packet, also one for another station. -/
  promiscuous : List Listener := []
deriving DecidableEq

namespace Interface

variable {family : Family}

/-- The loopback interface of a node. -/
def loopback : Interface family where
  name := "lo"
  addresses := [.unicast (.loopback family) (Prefix.loopback family).length]
  medium := .loopback

/-- An interface on a link. -/
def onLink (link : LinkId) (address : Option (InterfaceAddress family)) : Interface family where
  name := "link"
  addresses := address.toList
  medium := .link link

/-- An interface on an Ethernet port. -/
def onPort (name : String) (adapter : Adapter family) : Interface family where
  name
  addresses := []
  medium := .ethernet adapter

instance : Inhabited (Interface family) := ⟨{ loopback with name := "" }⟩

/-- The adapter of an Ethernet interface. -/
def adapter? (interface : Interface family) : Option (Adapter family) :=
  match interface.medium with
  | .ethernet adapter => some adapter
  | _ => none

/-- The interface with its adapter changed, if it has one. -/
def withAdapter (interface : Interface family) (change : Adapter family → Adapter family) :
    Interface family :=
  match interface.medium with
  | .ethernet adapter => { interface with medium := .ethernet (change adapter) }
  | _ => interface

/-- The interface with its resolver changed, if it has one. -/
def withResolver (interface : Interface family) (change : Resolver family → Resolver family) :
    Interface family :=
  interface.withAdapter fun adapter => { adapter with resolver := change adapter.resolver }

/-- The interface with an address, unless it has the very same entry. -/
def addAddress (interface : Interface family) (entry : InterfaceAddress family) :
    Interface family :=
  -- The resolver keeps its own list, from which it asks and answers.
  let interface := interface.withResolver fun resolver => resolver.addAddress entry
  if interface.addresses.contains entry then interface
  else { interface with addresses := interface.addresses ++ [entry] }

/-- Whether the interface has an entry for an address. -/
def lists (interface : Interface family) (address : Address family) : Bool :=
  interface.addresses.any (·.address == address)

/-- The interface without its first entry for an address; the resolver forgets all of them. -/
def removeAddress (interface : Interface family) (address : Address family) :
    Interface family :=
  let interface := interface.withResolver fun resolver => resolver.removeAddress address
  { interface with addresses := interface.addresses.eraseP (·.address == address) }

/-- Whether packets to an address are for this interface. -/
def hasAddress (interface : Interface family) (address : Address family) : Bool :=
  -- A loopback answers to its whole prefix, not only to its own address.
  (interface.medium == .loopback && (Prefix.loopback family).contains address) ||
    interface.lists address

/-- The first unicast address. -/
def firstUnicast? (interface : Interface family) : Option (Address family) :=
  (interface.addresses.find? (·.isUnicast)).map (·.address)

/-- The interface with a listener at the end. -/
def addListener (interface : Interface family) (listener : Listener) : Interface family :=
  { interface with listeners := interface.listeners ++ [listener] }

/-- The interface without a listener, however often it was added. -/
def removeListener (interface : Interface family) (listener : Listener) : Interface family :=
  { interface with listeners := interface.listeners.filter (· ≠ listener) }

/-- The interface with a promiscuous listener at the end. -/
def addPromiscuous (interface : Interface family) (listener : Listener) : Interface family :=
  { interface with promiscuous := interface.promiscuous ++ [listener] }

/-- The interface without a promiscuous listener. -/
def removePromiscuous (interface : Interface family) (listener : Listener) :
    Interface family :=
  { interface with promiscuous := interface.promiscuous.filter (· ≠ listener) }

/-- The listeners of a packet that is or is not for this interface, in order. -/
def audience (interface : Interface family) (accepted : Bool) : List Listener :=
  -- Those who watch see a packet before those it is for.
  interface.promiscuous ++ if accepted then interface.listeners else []

/-- The interface after it has stopped; a loopback only loses its listeners. -/
def close (interface : Interface family) : Interface family :=
  let silent := { interface with listeners := [], promiscuous := [] }
  match interface.medium with
  -- A node sends to itself as long as it exists.
  | .loopback => silent
  | _ => { silent.withAdapter Adapter.close with running := false }

end Interface

/-- Interfaces under their identities. -/
abbrev Interfaces (family : Family) := Dictionary InterfaceId (Interface family)

/-- The interface of an identity that is in use. -/
def Interfaces.at {family : Family} (interfaces : Interfaces family)
    (id : InterfaceId) : Interface family :=
  (interfaces.get? id).getD default

end NetworkLayer
