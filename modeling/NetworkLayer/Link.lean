import NetworkLayer.InterfaceAddress
import NetworkLayer.Route

/-! Links without a link layer: what is sent on one reaches the other interfaces on it. -/

namespace NetworkLayer

/-- A shared link with a pool of addresses and a list of its routers. -/
structure Link (family : Family) where
  net : Prefix family
  /-- The host part that is handed out next. -/
  nextHost : BitVec 128
  /-- In the order in which they were put on the link. -/
  members : List InterfaceId
  routers : List (Address family)
deriving DecidableEq

namespace Link

variable {family : Family}

/-- A link on a prefix; the pool starts behind the network address. -/
def create (net : Prefix family) : Link family := ⟨net, 1, [], []⟩

/-- The next address of the pool, which ends before the highest address of the prefix. -/
def nextAddress (link : Link family) : Option (InterfaceAddress family) × Link family :=
  -- The host mask is the host part of the highest address.
  if link.net.hostMask.word ≤ link.nextHost then (none, link)
  else
    (some (.unicast (.ofWord (link.net.address.word ||| link.nextHost)) link.net.length),
      { link with nextHost := link.nextHost + 1 })

/-- The link with a router. -/
def addRouter (link : Link family) (router : Address family) : Link family :=
  { link with routers := link.routers ++ [router] }

/-- The link without a router. -/
def removeRouter (link : Link family) (router : Address family) : Link family :=
  { link with routers := link.routers.filter (· ≠ router) }

end Link

end NetworkLayer
