/-! The free external ports of a translator, handed out from the front. -/

namespace NetworkLayer

/-- Free ports of a range, in the order in which they are handed out. -/
structure PortPool where
  free : List UInt16
  first : UInt16
  last : UInt16
deriving DecidableEq

namespace PortPool

/-- The pool of all ports from `first` to `last`. -/
def ofRange (first last : UInt16) : PortPool where
  -- A range that ends before it starts is empty.
  free := (List.range (last.toNat + 1 - first.toNat)).map fun index =>
    UInt16.ofNat (first.toNat + index)
  first
  last

/-- Whether a port belongs to the pool's range. -/
def inRange (pool : PortPool) (port : UInt16) : Bool :=
  pool.first ≤ port && port ≤ pool.last

/-- The next free port and the pool without it. -/
def take (pool : PortPool) : Option UInt16 × PortPool :=
  match pool.free with
  | [] => (none, pool)
  | port :: rest => (some port, { pool with free := rest })

/-- The pool with a port at the end, unless it is free already or out of range. -/
def release (pool : PortPool) (port : UInt16) : PortPool :=
  if pool.inRange port && !pool.free.contains port then
    -- At the end it rests for as long as possible before it is used again.
    { pool with free := pool.free ++ [port] }
  else pool

/-- Whether a port was free, and the pool without it. -/
def reserve (pool : PortPool) (port : UInt16) : Bool × PortPool :=
  (pool.free.contains port, { pool with free := pool.free.erase port })

/-- Number of free ports. -/
def available (pool : PortPool) : Nat := pool.free.length

end PortPool

end NetworkLayer
