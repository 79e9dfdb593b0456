import NetworkLayer.Toml.Value

/-!
Tables under construction. A table may be written once, by a header or in braces; what only lies on
the way to another table may still be written, and what parted keys made may only get more keys.
-/

namespace NetworkLayer.Toml

/-- How a table came about. -/
inductive TableOrigin
  /-- By a header, or as the document itself. -/
  | written
  /-- On the way to the table of a header. -/
  | implied
  /-- On the way to the last part of a key. -/
  | parted
deriving DecidableEq, Repr

/-- What is under a key of a table. -/
inductive Item
  | value (value : Value)
  | table (origin : TableOrigin) (entries : List (String × Item))
  /-- An array of tables that headers extend. -/
  | elements (tables : List (List (String × Item)))

/-- The entries of a table under construction. -/
abbrev Entries := List (String × Item)

/-- A value under a key of one or more parts. -/
structure Assignment where
  path : List String
  value : Value

namespace Item

mutual

/-- The value of a finished item. -/
def toValue : Item → Value
  | .value content => content
  | table _ entries => .table (valuesOf entries)
  | elements tables => .array (tablesOf tables)

/-- The values of finished entries. -/
def valuesOf : List (String × Item) → List (String × Value)
  | [] => []
  | (key, item) :: rest => (key, item.toValue) :: valuesOf rest

/-- The values of finished tables. -/
def tablesOf : List (List (String × Item)) → List Value
  | [] => []
  | entries :: rest => .table (valuesOf entries) :: tablesOf rest

end

end Item

namespace Entries

/-- The entries with an item in the place of the one under its key. -/
def replace (entries : Entries) (key : String) (item : Item) : Entries :=
  entries.map fun entry => if entry.1 = key then (key, item) else entry

/-- Changes the table at the end of a path. Keys on the way make the tables that are missing, and
go into the last element of an array of tables; a parted key cannot pass a written table. -/
def reach (parted : Bool) (change : TableOrigin → Entries → Option Entries) :
    List String → TableOrigin → Entries → Option Entries
  | [], origin, entries => change origin entries
  | key :: rest, _, entries =>
    match entries.lookup key with
    | none => do
      let origin := if parted then .parted else .implied
      let inner ← reach parted change rest origin []
      return entries ++ [(key, .table origin inner)]
    | some (.value _) => none
    | some (.table origin inner) =>
      -- A table with a header of its own is complete for keys from outside.
      if parted && origin = .written then none
      else do
        let inner ← reach parted change rest origin inner
        return entries.replace key (.table origin inner)
    | some (.elements tables) => do
      -- Headers below an array of tables speak of its last element.
      let inner ← reach parted change rest .written (← tables.getLast?)
      return entries.replace key (.elements (tables.dropLast ++ [inner]))

/-- Puts a value under a new key of a table; only tables of parted keys are changed from above. -/
def assign (assignment : Assignment) (entries : Entries) : Option Entries := do
  let key ← assignment.path.getLast?
  reach true (fun origin entries =>
    -- The last step of a longer key may only enter what such keys have made.
    if origin ≠ .parted && assignment.path.length ≠ 1 || (entries.lookup key).isSome then none
    else some (entries ++ [(key, .value assignment.value)]))
    assignment.path.dropLast .written entries

/-- Opens the table of a header, which must not be there yet unless it was implied. -/
def openTable (path : List String) (entries : Entries) : Option Entries := do
  let key ← path.getLast?
  reach false (fun _ entries =>
    match entries.lookup key with
    | none => some (entries ++ [(key, .table .written [])])
    -- A header may follow those of the tables below it.
    | some (.table .implied inner) => some (entries.replace key (.table .written inner))
    | some _ => none) path.dropLast .written entries

/-- Opens the next element of an array of tables. -/
def openElement (path : List String) (entries : Entries) : Option Entries := do
  let key ← path.getLast?
  reach false (fun _ entries =>
    match entries.lookup key with
    | none => some (entries ++ [(key, .elements [[]])])
    | some (.elements tables) => some (entries.replace key (.elements (tables ++ [[]])))
    | some _ => none) path.dropLast .written entries

/-- The table in braces with some assignments. -/
def ofAssignments (assignments : List Assignment) : Option Entries :=
  assignments.foldlM (fun entries assignment => entries.assign assignment) []

end Entries

end NetworkLayer.Toml
