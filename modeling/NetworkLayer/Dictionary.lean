/-! Values under keys, kept in the order in which the keys came first. -/

namespace NetworkLayer

/-- A list of values under keys; the first entry of a key is the one that counts. -/
structure Dictionary (κ α : Type) where
  entries : List (κ × α)
deriving DecidableEq

namespace Dictionary

variable {κ α : Type} [BEq κ]

/-- The dictionary without entries. -/
def empty : Dictionary κ α := ⟨[]⟩

instance : Inhabited (Dictionary κ α) := ⟨empty⟩

/-- The value under a key. -/
def get? (dictionary : Dictionary κ α) (key : κ) : Option α :=
  dictionary.entries.lookup key

/-- Whether there is a value under a key. -/
def contains (dictionary : Dictionary κ α) (key : κ) : Bool :=
  (dictionary.get? key).isSome

/-- The dictionary with a value under a key, in the key's old place if it has one. -/
def insert (dictionary : Dictionary κ α) (key : κ) (value : α) : Dictionary κ α :=
  if dictionary.contains key then
    -- A new value keeps the place that its key got first.
    ⟨dictionary.entries.map fun entry => if key == entry.1 then (entry.1, value) else entry⟩
  else ⟨dictionary.entries ++ [(key, value)]⟩

/-- The dictionary without a key. -/
def erase (dictionary : Dictionary κ α) (key : κ) : Dictionary κ α :=
  ⟨dictionary.entries.filter fun entry => !(key == entry.1)⟩

/-- The dictionary with the value under a key changed, if there is one. -/
def modify (dictionary : Dictionary κ α) (key : κ) (change : α → α) : Dictionary κ α :=
  ⟨dictionary.entries.map fun entry =>
    if key == entry.1 then (entry.1, change entry.2) else entry⟩

/-- The keys. -/
def keys (dictionary : Dictionary κ α) : List κ :=
  dictionary.entries.map Prod.fst

end Dictionary

end NetworkLayer
