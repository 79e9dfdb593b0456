import NetworkLayer.Address
import NetworkLayer.Dictionary

/-! Resolved link-layer addresses, which count for a limited time. -/

namespace NetworkLayer

/-- A resolved link-layer address and when it was learned. -/
structure Learned where
  mac : Mac
  stamp : Nat
deriving DecidableEq

/-- The link-layer addresses learned on an interface; times are in milliseconds. -/
structure ResolutionCache (family : Family) where
  timeout : Nat
  entries : Dictionary (Address family) Learned
deriving DecidableEq

namespace ResolutionCache

variable {family : Family}

/-- The cache without entries. -/
def empty (timeout : Nat) : ResolutionCache family := ⟨timeout, .empty⟩

/-- Whether an entry is younger than the timeout. -/
def isLive (cache : ResolutionCache family) (now : Nat) (entry : Learned) : Bool :=
  now < entry.stamp + cache.timeout

/-- The live entry for an address; an expired one is taken out. -/
def get (cache : ResolutionCache family) (now : Nat) (address : Address family) :
    Option Mac × ResolutionCache family :=
  match cache.entries.get? address with
  | none => (none, cache)
  | some entry =>
    -- An entry is looked at for its age only when it is wanted.
    if cache.isLive now entry then (some entry.mac, cache)
    else (none, { cache with entries := cache.entries.erase address })

/-- The cache with what was learned now about an address. -/
def insert (cache : ResolutionCache family) (now : Nat) (address : Address family) (mac : Mac) :
    ResolutionCache family :=
  { cache with entries := cache.entries.insert address ⟨mac, now⟩ }

/-- Whether there was an entry for an address, and the cache without it. -/
def remove (cache : ResolutionCache family) (address : Address family) :
    Bool × ResolutionCache family :=
  (cache.entries.contains address, { cache with entries := cache.entries.erase address })

/-- The cache with its entries forgotten. -/
def clear (cache : ResolutionCache family) : ResolutionCache family :=
  empty cache.timeout

/-- The entries by address, live or not. -/
def sorted (cache : ResolutionCache family) : List (Address family × Mac) :=
  (cache.entries.entries.map fun (address, entry) => (address, entry.mac)).mergeSort
    fun a b => decide (a.1.number ≤ b.1.number)

end ResolutionCache

end NetworkLayer
