import NetworkLayer.Toml.Document

/-!
Places in a document. Main statements: a header opens a new place at its path, and a value under a
key joins the entries of the place that was opened last.
-/

namespace NetworkLayer.Toml

namespace Entries

/-- The keys of entries. -/
def keys (entries : Entries) : List String := entries.map (·.1)

@[simp] theorem keys_append (first second : Entries) :
    (first ++ second).keys = first.keys ++ second.keys := List.map_append

@[simp] theorem keys_cons (key : String) (item : Item) (entries : Entries) :
    keys ((key, item) :: entries) = key :: entries.keys := rfl

@[simp] theorem keys_nil : keys [] = [] := rfl

/-- No entry has a key that is not there. -/
theorem ne_of_fresh {entries : Entries} {key : String} (fresh : key ∉ entries.keys)
    {entry : String × Item} (listed : entry ∈ entries) : entry.1 ≠ key := by
  rintro rfl
  exact fresh (List.mem_map_of_mem listed)

/-- A key that is not there is not found. -/
theorem lookup_of_fresh {entries : Entries} {key : String} (fresh : key ∉ entries.keys) :
    entries.lookup key = none := by
  rw [List.lookup_eq_none_iff]
  intro entry listed
  simpa using (ne_of_fresh fresh listed).symm

/-- The last entry is found by its key. -/
theorem lookup_last {entries : Entries} {key : String} (fresh : key ∉ entries.keys) (item : Item) :
    List.lookup key (entries ++ [(key, item)]) = some item := by
  rw [List.lookup_append, lookup_of_fresh fresh]
  simp

/-- The last entry is replaced under its key. -/
theorem replace_last {entries : Entries} {key : String} (fresh : key ∉ entries.keys)
    (item other : Item) :
    replace (entries ++ [(key, item)]) key other = entries ++ [(key, other)] := by
  have kept : entries.map (fun entry => if entry.1 = key then (key, other) else entry) = entries := by
    refine (List.map_congr_left fun entry listed => ?_).trans (List.map_id entries)
    exact if_neg (ne_of_fresh fresh listed)
  rw [replace, List.map_append, kept]
  simp

/-- A path in two parts leads where its second part leads from the end of the first one. -/
theorem reach_append (parted : Bool) (change : TableOrigin → Entries → Option Entries)
    (first second : List String) (origin : TableOrigin) (entries : Entries) :
    reach parted change (first ++ second) origin entries =
      reach parted (reach parted change second) first origin entries := by
  induction first generalizing origin entries with
  | nil => rfl
  | cons key first ih =>
    rw [List.cons_append, reach, reach]
    simp only [ih]

/-- Whether a path leads to a table of some origin: `fill` puts contents into the table, and a
change at the end of the path changes the contents and nothing else. -/
def Place (path : List String) (origin : TableOrigin) (fill : Entries → Entries) : Prop :=
  ∀ change inner, reach false change path .written (fill inner) = (change origin inner).map fill

/-- The empty path leads to the document itself. -/
theorem Place.top : Place [] .written id := by
  intro change inner
  rw [Option.map_id_fun]
  rfl

variable {path : List String} {origin : TableOrigin} {fill : Entries → Entries}
  {entries : Entries} {key : String}

/-- The last table of a place is a place. -/
theorem Place.table (place : Place path origin fill) (fresh : key ∉ entries.keys) :
    Place (path ++ [key]) .written
      fun inner => fill (entries ++ [(key, .table .written inner)]) := by
  intro change inner
  -- The table was put at the end, so it is the one that is found and replaced.
  rw [reach_append, place, reach, lookup_last fresh]
  simp only [Bool.false_and, Bool.false_eq_true, if_false]
  cases changed : change .written inner with
  | none => simp [reach, changed]
  | some inner' => simp [reach, changed, replace_last fresh]

/-- The last element of the last array of a place is a place. -/
theorem Place.element (place : Place path origin fill) (fresh : key ∉ entries.keys)
    (before : List Entries) :
    Place (path ++ [key]) .written
      fun inner => fill (entries ++ [(key, .elements (before ++ [inner]))]) := by
  intro change inner
  rw [reach_append, place, reach, lookup_last fresh]
  cases changed : change .written inner with
  | none => simp [reach, changed]
  | some inner' => simp [reach, changed, replace_last fresh]

end Entries

namespace DocumentState

open Entries

variable {path : List String} {origin : TableOrigin} {fill : Entries → Entries}
  {entries : Entries} {key : String}

/-- A header opens a new table in its place. -/
theorem after_table (place : Place path origin fill) (fresh : key ∉ entries.keys)
    (current : List String) :
    after ⟨fill entries, current⟩ (.table (path ++ [key])) =
      some ⟨fill (entries ++ [(key, .table .written [])]), path ++ [key]⟩ := by
  -- The place leads to the entries, and in these the key is new.
  have opened : openTable (path ++ [key]) (fill entries) =
      some (fill (entries ++ [(key, .table .written [])])) := by
    simp only [openTable, List.getLast?_concat, List.dropLast_concat, Option.bind_eq_bind,
      Option.bind_some]
    rw [place, lookup_of_fresh fresh]
    rfl
  rw [after, opened]
  rfl

/-- The entries of a place, with some elements of an array at the end if there are any. -/
def withElements (entries : Entries) (key : String) : List Entries → Entries
  | [] => entries
  | tables => entries ++ [(key, .elements tables)]

/-- A header in double brackets opens the next element of its array. -/
theorem after_element (place : Place path origin fill) (fresh : key ∉ entries.keys)
    (before : List Entries) (current : List String) :
    after ⟨fill (withElements entries key before), current⟩ (.element (path ++ [key])) =
      some ⟨fill (entries ++ [(key, .elements (before ++ [[]]))]), path ++ [key]⟩ := by
  -- The place leads to the entries, in which the array is new or has its elements so far.
  have opened : openElement (path ++ [key]) (fill (withElements entries key before)) =
      some (fill (entries ++ [(key, .elements (before ++ [[]]))])) := by
    simp only [openElement, List.getLast?_concat, List.dropLast_concat, Option.bind_eq_bind,
      Option.bind_some]
    rw [place]
    -- The first element makes the array, and each other one goes behind those before.
    cases before with
    | nil =>
      rw [withElements, lookup_of_fresh fresh]
      rfl
    | cons first before =>
      rw [withElements, lookup_last fresh]
      · simp [replace_last fresh]
      · exact List.cons_ne_nil first before
  rw [after, opened]
  rfl

/-- A value under a new key joins the table that was opened last. -/
theorem after_assign (place : Place path origin fill) (fresh : key ∉ entries.keys) (value : Value) :
    after ⟨fill entries, path⟩ (.assign ⟨[key], value⟩) =
      some ⟨fill (entries ++ [(key, .value value)]), path⟩ := by
  have assigned : entries.assign ⟨[key], value⟩ = some (entries ++ [(key, .value value)]) := by
    simp [assign, reach, lookup_of_fresh fresh]
  rw [after, place, assigned]
  rfl

end DocumentState

end NetworkLayer.Toml
