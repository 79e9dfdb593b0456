import NetworkLayer.Proofs.Toml.Layout

/-!
The integers of a document. Main statement: every integer of a document that has been read, however
deep it stands, fits 64 bits with a sign; so does every integer that can be written.
-/

namespace NetworkLayer.Toml

namespace Value

/-- Whether an integer stands somewhere in a value. -/
inductive Holds (number : Int) : Value → Prop
  | integer : Holds number (.integer number)
  | item {items : List Value} {item : Value} (listed : item ∈ items) (held : Holds number item) :
      Holds number (.array items)
  | entry {entries : List (String × Value)} {key : String} {value : Value}
      (listed : (key, value) ∈ entries) (held : Holds number value) :
      Holds number (.table entries)

/-- Whether an integer fits 64 bits with a sign. -/
def InRange (number : Int) : Prop := -0x8000000000000000 ≤ number ∧ number < 0x8000000000000000

/-- Whether all integers of a value fit 64 bits with a sign. -/
def Ranged (value : Value) : Prop := ∀ number, value.Holds number → InRange number

/-- An integer in the range is a value in the range. -/
theorem ranged_integer {number : Int} (inside : InRange number) : Ranged (.integer number) := by
  intro other held
  cases held
  exact inside

/-- The integers of an array are those of its items. -/
theorem ranged_array {items : List Value} :
    Ranged (.array items) ↔ ∀ item ∈ items, item.Ranged := by
  -- The integers of the array are held by its items, and those of an item by the array.
  constructor
  · intro ranged item listed number held
    exact ranged number (.item listed held)
  · intro ranged number held
    cases held with
    | item listed held => exact ranged _ listed number held

/-- The integers of a table are those of its entries. -/
theorem ranged_table {entries : List (String × Value)} :
    Ranged (.table entries) ↔ ∀ entry ∈ entries, entry.2.Ranged := by
  -- The integers of the table are held by its entries, and those of an entry by the table.
  constructor
  · intro ranged entry listed number held
    exact ranged number (.entry listed held)
  · intro ranged number held
    cases held with
    | entry listed held => exact ranged _ listed number held

end Value

namespace Reader

variable {α β : Type}

/-- Whether all that a reader takes has some property. -/
def Yields (reader : Reader α) (holds : α → Prop) : Prop :=
  ∀ text result rest, reader text = some (result, rest) → holds result

variable {holds : α → Prop} {also : β → Prop}

/-- A reader of nothing yields what it returns. -/
theorem yields_pure {result : α} (held : holds result) : Yields (pure result) holds := by
  intro text other rest taken
  cases taken
  exact held

/-- What the first of two readers yields is known to the second one. -/
theorem yields_bind {first : Reader β} {next : β → Reader α} (before : Yields first also)
    (after : ∀ result, also result → Yields (next result) holds) :
    Yields (first >>= next) holds := by
  intro text result rest taken
  rw [bind_apply, Option.bind_eq_some_iff] at taken
  obtain ⟨⟨between, left⟩, front, back⟩ := taken
  exact after between (before text between left front) left result rest back

/-- The second of two readers may yield all of it. -/
theorem yields_next {first : Reader β} {next : β → Reader α}
    (after : ∀ result, Yields (next result) holds) : Yields (first >>= next) holds := by
  have anything : Yields first fun _ => True := fun _ _ _ _ => trivial
  exact yields_bind anything fun result _ => after result

/-- Either of two readers yields what both of them do. -/
theorem yields_orElse {first second : Reader α} (one : Yields first holds)
    (other : Yields second holds) : Yields (first <|> second) holds := by
  intro text result rest taken
  -- The first reader decides, and only where it fails does the other one read.
  rw [orElse_apply] at taken
  cases front : first text with
  | none =>
    rw [front] at taken
    exact other text result rest taken
  | some outcome =>
    rw [front] at taken
    exact one text result rest (front.trans taken)

/-- A computation that may fail yields what it returns. -/
theorem yields_lift {outcome : Option α} (held : ∀ result, outcome = some result → holds result) :
    Yields (StateT.lift outcome) holds := by
  intro text result rest taken
  cases outcome with
  | none => cases taken
  | some found =>
    cases taken
    exact held _ rfl

end Reader

open Reader

namespace Number

/-- A number below a limit is. -/
theorem yields_below (limit base : Nat) (run : List Char) :
    Yields (below limit base run) (· < limit) := by
  refine yields_lift fun number found => ?_
  obtain ⟨-, small⟩ := Option.filter_eq_some_iff.mp found
  exact of_decide_eq_true small

/-- An integer in another base than ten fits 64 bits with a sign. -/
theorem yields_based (mark : Char) (base : Nat) :
    Yields (integer.based mark base) Value.InRange := by
  refine yields_next fun _ => yields_next fun _ => yields_next fun run => ?_
  refine yields_bind (yields_below (1 <<< 63) base run) fun number small => yields_pure ?_
  have limit : 1 <<< 63 = 0x8000000000000000 := rfl
  rw [Value.InRange]
  omega

/-- An integer that is read fits 64 bits with a sign. -/
theorem yields_integer : Yields integer Value.InRange := by
  refine yields_orElse (yields_based _ _) (yields_orElse (yields_based _ _)
    (yields_orElse (yields_based _ _) ?_))
  -- The three bases come first. A decimal number has one more below zero than above.
  refine yields_next fun negative => yields_next fun run => ?_
  cases negative with
  | true =>
    refine yields_bind (yields_below (1 <<< 63 + 1) 10 run) fun number small => yields_pure ?_
    have limit : 1 <<< 63 + 1 = 0x8000000000000000 + 1 := rfl
    rw [Value.InRange]
    omega
  | false =>
    refine yields_bind (yields_below (1 <<< 63) 10 run) fun number small => yields_pure ?_
    have limit : 1 <<< 63 = 0x8000000000000000 := rfl
    rw [Value.InRange]
    omega

/-- The integer of a number that is read fits 64 bits with a sign. -/
theorem yields_value : Yields Number.value Value.Ranged := by
  -- Dates and floats hold no integer.
  refine yields_orElse (yields_next fun lexeme => yields_pure ?_)
    (yields_orElse (yields_next fun lexeme => yields_pure ?_) ?_)
  · intro number held
    cases held
  · intro number held
    cases held
  · exact yields_bind yields_integer fun number inside =>
      yields_pure (Value.ranged_integer inside)

end Number

namespace Entries

/-- Whether all integers below the entries of a table fit 64 bits with a sign. -/
def Ranged (entries : Entries) : Prop := ∀ entry ∈ entries, entry.2.toValue.Ranged

/-- A table has the integers of its entries. -/
theorem ranged_valuesOf {entries : Entries} :
    (Value.table (Item.valuesOf entries)).Ranged ↔ entries.Ranged := by
  -- The values are those of the items, entry by entry.
  have values : Item.valuesOf entries = entries.map fun entry => (entry.1, entry.2.toValue) := by
    induction entries with
    | nil => rfl
    | cons entry rest ih => rw [Item.valuesOf, List.map_cons, ih]
  rw [Value.ranged_table, values, List.forall_mem_map]
  rfl

/-- An array has the integers of its tables. -/
theorem ranged_tablesOf {tables : List Entries} :
    (Value.array (Item.tablesOf tables)).Ranged ↔ ∀ table ∈ tables, Ranged table := by
  -- The tables are those of the elements, one by one.
  have values : Item.tablesOf tables = tables.map fun table => .table (Item.valuesOf table) := by
    induction tables with
    | nil => rfl
    | cons table rest ih => rw [Item.tablesOf, List.map_cons, ih]
  rw [Value.ranged_array, values, List.forall_mem_map]
  exact forall_congr' fun table => imp_congr_right fun _ => ranged_valuesOf

variable {entries : Entries}

/-- One more entry in the range keeps the entries in it. -/
theorem Ranged.append (ranged : entries.Ranged) {key : String} {item : Item}
    (joins : item.toValue.Ranged) : Ranged (entries ++ [(key, item)]) := by
  intro entry listed
  rcases List.mem_append.mp listed with old | new
  · exact ranged entry old
  · rw [List.mem_singleton.mp new]
    exact joins

/-- An item in the range in the place of another one keeps the entries in it. -/
theorem Ranged.replace (ranged : entries.Ranged) {key : String} {item : Item}
    (joins : item.toValue.Ranged) : Ranged (entries.replace key item) := by
  intro entry listed
  obtain ⟨old, member, rfl⟩ := List.mem_map.mp listed
  split
  · exact joins
  · exact ranged old member

/-- What is found under a key is in the range. -/
theorem Ranged.lookup (ranged : entries.Ranged) {key : String} {item : Item}
    (found : List.lookup key entries = some item) : item.toValue.Ranged := by
  obtain ⟨before, after, rfl, -⟩ := List.lookup_eq_some_iff.mp found
  exact ranged (key, item) (List.mem_append_right _ List.mem_cons_self)

/-- A table in the range is an item in the range. -/
theorem Ranged.table (ranged : entries.Ranged) (origin : TableOrigin) :
    (Item.table origin entries).toValue.Ranged := by
  rw [Item.toValue]
  exact ranged_valuesOf.mpr ranged

/-- Tables in the range are an item in the range. -/
theorem ranged_elements {tables : List Entries} :
    (Item.elements tables).toValue.Ranged ↔ ∀ table ∈ tables, Ranged table := by
  rw [Item.toValue]
  exact ranged_tablesOf

/-- No entries are in the range. -/
theorem ranged_nil : Ranged [] := List.forall_mem_nil _

/-- A change that keeps the range of the table at the end of a path keeps that of all tables. -/
theorem ranged_reach {parted : Bool} {change : TableOrigin → Entries → Option Entries}
    (keeps : ∀ origin inner result, Ranged inner → change origin inner = some result →
      Ranged result)
    {path : List String} {origin : TableOrigin} {result : Entries} (ranged : entries.Ranged)
    (reached : reach parted change path origin entries = some result) : result.Ranged := by
  induction path generalizing origin entries result with
  | nil => exact keeps origin entries result ranged reached
  | cons key rest ih =>
    rw [reach] at reached
    split at reached
    · -- There is no such table yet.
      obtain ⟨inner, below, same⟩ := Option.bind_eq_some_iff.mp reached
      cases same
      exact ranged.append ((ih ranged_nil below).table _)
    · cases reached
    · rename_i found
      split at reached
      · cases reached
      · -- The path goes on in a table that is there.
        obtain ⟨inner, below, same⟩ := Option.bind_eq_some_iff.mp reached
        cases same
        have before := ranged.lookup found
        rw [Item.toValue, ranged_valuesOf] at before
        exact ranged.replace ((ih before below).table _)
    · -- The path goes on in the last table of an array.
      rename_i tables found
      obtain ⟨last, final, reached⟩ := Option.bind_eq_some_iff.mp reached
      obtain ⟨inner, below, same⟩ := Option.bind_eq_some_iff.mp reached
      cases same
      have before := ranged_elements.mp (ranged.lookup found)
      have lastRanged := before last (List.mem_of_getLast? final)
      refine ranged.replace (ranged_elements.mpr fun table listed => ?_)
      rcases List.mem_append.mp listed with old | new
      · exact before table (List.dropLast_subset tables old)
      · rw [List.mem_singleton.mp new]
        exact ih lastRanged below

/-- A value in the range under a new key keeps the entries in it. -/
theorem ranged_assign {assignment : Assignment} {result : Entries} (ranged : entries.Ranged)
    (value : assignment.value.Ranged) (assigned : entries.assign assignment = some result) :
    result.Ranged := by
  -- The entry is new, so it is appended where its path leads.
  obtain ⟨key, -, assigned⟩ := Option.bind_eq_some_iff.mp assigned
  refine ranged_reach (fun origin inner outcome before changed => ?_) ranged assigned
  split at changed
  · cases changed
  · cases changed
    refine before.append ?_
    rw [Item.toValue]
    exact value

/-- A header keeps the entries in the range. -/
theorem ranged_openTable {path : List String} {result : Entries} (ranged : entries.Ranged)
    (opened : entries.openTable path = some result) : result.Ranged := by
  obtain ⟨key, -, opened⟩ := Option.bind_eq_some_iff.mp opened
  -- A table is new, was only implied so far, or is refused.
  refine ranged_reach (fun origin inner outcome before changed => ?_) ranged opened
  split at changed
  · cases changed
    exact before.append (ranged_nil.table _)
  · rename_i found
    cases changed
    have table := before.lookup found
    rw [Item.toValue, ranged_valuesOf] at table
    exact before.replace (table.table _)
  · cases changed

/-- A header in double brackets keeps the entries in the range. -/
theorem ranged_openElement {path : List String} {result : Entries} (ranged : entries.Ranged)
    (opened : entries.openElement path = some result) : result.Ranged := by
  obtain ⟨key, -, opened⟩ := Option.bind_eq_some_iff.mp opened
  refine ranged_reach (fun origin inner outcome before changed => ?_) ranged opened
  have fresh : ∀ table ∈ [([] : Entries)], Ranged table := by
    intro table listed
    rw [List.mem_singleton.mp listed]
    exact ranged_nil
  -- An element is the first of its array, or goes behind the others.
  split at changed
  · cases changed
    exact before.append (ranged_elements.mpr fresh)
  · rename_i tables found
    cases changed
    have old := ranged_elements.mp (before.lookup found)
    refine before.replace (ranged_elements.mpr fun table listed => ?_)
    exact (List.mem_append.mp listed).elim (old table) (fresh table)
  · cases changed

/-- What each step of a run keeps, the run keeps. -/
theorem foldlM_keeps {State Step : Type} {holds : State → Prop} {step : State → Step → Option State}
    {steps : List Step}
    (keeps : ∀ before action after, action ∈ steps → holds before →
      step before action = some after → holds after)
    {before after : State} (held : holds before) (ran : steps.foldlM step before = some after) :
    holds after := by
  induction steps generalizing before with
  | nil =>
    cases ran
    exact held
  | cons action steps ih =>
    rw [List.foldlM_cons] at ran
    obtain ⟨between, first, ran⟩ := Option.bind_eq_some_iff.mp ran
    exact ih (fun before action after listed => keeps before action after (.tail _ listed))
      (keeps before action between List.mem_cons_self held first) ran

/-- Values in the range make a table in the range. -/
theorem ranged_ofAssignments {assignments : List Assignment} {result : Entries}
    (values : ∀ assignment ∈ assignments, assignment.value.Ranged)
    (made : ofAssignments assignments = some result) : result.Ranged :=
  foldlM_keeps (fun _ assignment _ listed ranged assigned =>
    ranged_assign ranged (values assignment listed) assigned) ranged_nil made

end Entries

namespace Reader

open Value

/-- The items of a list have what its item reader yields. -/
theorem yields_separated {α : Type} {holds : α → Prop} {item : Reader α} (mark : Char)
    (each : Yields item holds) : Yields (separated mark item) fun all => ∀ one ∈ all, holds one := by
  -- Induction on the number of items that may follow.
  have others (count : Nat) : Yields (more mark item count) fun all => ∀ one ∈ all, holds one := by
    induction count with
    | zero => exact yields_pure (List.forall_mem_nil _)
    | succ count ih =>
      refine yields_orElse (yields_next fun _ => yields_bind each fun first held =>
        yields_bind ih fun rest all => yields_pure ?_) (yields_pure (List.forall_mem_nil _))
      exact List.forall_mem_cons.mpr ⟨held, all⟩
  refine yields_bind each fun first held => yields_next fun text =>
    yields_bind (others text.length) fun rest all => yields_pure ?_
  exact List.forall_mem_cons.mpr ⟨held, all⟩

/-- The items of an array have what its item reader yields. -/
theorem yields_items {holds : Value → Prop} {item : Reader Value} (each : Yields item holds) :
    Yields (items item) fun all => ∀ one ∈ all, holds one := by
  -- Around each item stand gaps, which yield nothing.
  have yieldsEntry : Yields (entry item) holds :=
    yields_next fun _ => yields_bind each fun value held => yields_next fun _ => yields_pure held
  rw [items_eq]
  refine yields_bind (yields_orElse (yields_bind (yields_separated ',' yieldsEntry)
    fun values all => yields_next fun _ => yields_pure all)
    (yields_pure (List.forall_mem_nil _))) fun values all => ?_
  exact yields_next fun _ => yields_next fun _ => yields_pure all

/-- An assignment has the integers of its value. -/
theorem yields_assignment {value : Reader Value} (each : Yields value Ranged) :
    Yields (assignment value) fun taken => taken.value.Ranged := by
  refine yields_next fun path => yields_next fun _ => yields_bind ?_ fun taken held =>
    yields_pure held
  exact yields_next fun _ => yields_bind each fun taken held => yields_next fun _ => yields_pure held

/-- A table in braces has the integers of its values. -/
theorem yields_entries {value : Reader Value} (each : Yields value Ranged) :
    Yields (entries value) Entries.Ranged := by
  refine yields_bind (yields_orElse (yields_separated ',' (yields_assignment each))
    (yields_pure (List.forall_mem_nil _))) fun assignments all => ?_
  exact yields_next fun _ => yields_next fun _ => yields_lift fun made found =>
    Entries.ranged_ofAssignments all found

/-- A scalar that is taken has only integers in the range. -/
theorem yields_scalar : Yields scalar Ranged := by
  -- Texts and booleans hold no integer, and numbers are known.
  refine yields_orElse (yields_next fun content => yields_pure ?_)
    (yields_orElse (yields_next fun _ => yields_pure ?_)
      (yields_orElse (yields_next fun _ => yields_pure ?_) Number.yields_value))
  all_goals
    intro number held
    cases held

/-- A value that is taken has only integers in the range. -/
theorem yields_value (depth : Nat) : Yields (Reader.value depth) Ranged := by
  -- Induction on the depth: the values inside an array or a table are read one level below.
  induction depth with
  | zero => exact yields_scalar
  | succ depth ih =>
    refine yields_orElse (yields_next fun _ => ?_) (yields_orElse (yields_next fun _ => ?_)
      yields_scalar)
    · exact yields_bind (yields_items ih) fun values all => yields_pure (ranged_array.mpr all)
    · exact yields_bind (yields_entries ih) fun entries ranged =>
        yields_pure (Entries.ranged_valuesOf.mpr ranged)

/-- Whether the value of a statement, if it has one, has only integers in the range. -/
def RangedStatement : Statement → Prop
  | .assign assignment => assignment.value.Ranged
  | .table _ | .element _ => True

/-- A statement that is taken has only integers in the range. -/
theorem yields_statement : Yields statement fun said => ∀ one ∈ said, RangedStatement one := by
  -- An empty line says nothing, headers carry no value, and an assignment carries the one that was read.
  refine yields_next fun _ => yields_orElse (yields_next fun _ => yields_pure ?_)
    (yields_orElse ?_ (yields_orElse ?_ ?_))
  · intro one said
    cases said
  · refine yields_next fun _ => yields_next fun _ => yields_next fun path => yields_next fun _ =>
      yields_next fun _ => yields_next fun _ => yields_pure ?_
    intro one said
    cases said
    trivial
  · refine yields_next fun _ => yields_next fun path => yields_next fun _ =>
      yields_next fun _ => yields_pure ?_
    intro one said
    cases said
    trivial
  · refine yields_bind (yields_assignment (yields_value deepestNesting)) fun taken ranged =>
      yields_next fun _ => yields_pure ?_
    intro one said
    cases said
    exact ranged

/-- The statements of a text have only integers in the range. -/
theorem ranged_statements {lines : Nat} {text : List Char} {all : List Statement}
    (taken : statements lines text = some all) : ∀ one ∈ all, RangedStatement one := by
  -- Induction on the lines that may be left.
  induction lines generalizing text all with
  | zero =>
    cases text with
    | nil =>
      cases taken
      exact List.forall_mem_nil _
    | cons c text => cases taken
  | succ lines ih =>
    cases text with
    | nil =>
      cases taken
      exact List.forall_mem_nil _
    | cons c text =>
      obtain ⟨⟨first, rest⟩, said, taken⟩ := Option.bind_eq_some_iff.mp taken
      obtain ⟨others, later, same⟩ := Option.bind_eq_some_iff.mp taken
      cases same
      intro one listed
      rcases List.mem_append.mp listed with here | there
      · exact yields_statement _ _ _ said one (Option.mem_toList.mp here)
      · exact ih later one there

end Reader

/-- A statement in the range keeps the document in it. -/
theorem DocumentState.ranged_after {before after : DocumentState} {said : Statement}
    (ranged : before.entries.Ranged) (value : Reader.RangedStatement said)
    (read : before.after said = some after) : after.entries.Ranged := by
  -- Each kind of statement keeps the range by its own lemma.
  cases said with
  | assign assignment =>
    obtain ⟨entries, reached, same⟩ := Option.bind_eq_some_iff.mp read
    cases same
    exact Entries.ranged_reach (fun _ _ _ inner assigned => Entries.ranged_assign inner value assigned)
      ranged reached
  | table path =>
    obtain ⟨entries, opened, same⟩ := Option.bind_eq_some_iff.mp read
    cases same
    exact Entries.ranged_openTable ranged opened
  | element path =>
    obtain ⟨entries, opened, same⟩ := Option.bind_eq_some_iff.mp read
    cases same
    exact Entries.ranged_openElement ranged opened

/-- Every integer of a document that has been read fits 64 bits with a sign. -/
theorem ranged_parse {text : String} {entries : List (String × Value)}
    (parsed : Toml.parse text = some entries) : (Value.table entries).Ranged := by
  -- What was said has only integers in the range, and a document starts empty.
  obtain ⟨said, taken, made⟩ := Option.bind_eq_some_iff.mp parsed
  obtain ⟨final, ran, same⟩ := Option.bind_eq_some_iff.mp made
  cases same
  have values := Reader.ranged_statements taken
  have empty : (⟨[], []⟩ : DocumentState).entries.Ranged := Entries.ranged_nil
  have ranged : final.entries.Ranged := Entries.foldlM_keeps (fun before one after listed held read =>
    DocumentState.ranged_after held (values one listed) read) empty ran
  exact Entries.ranged_valuesOf.mpr ranged

/-- A value that can be written has only integers in the range. -/
theorem Writable.ranged {levels : Nat} {value : Value} (writable : Writable levels value) :
    value.Ranged := by
  have scalarRanged {scalar : Value} (plain : scalar.Scalar) : scalar.Ranged := by
    intro number held
    cases held with
    | integer =>
      obtain ⟨low, high⟩ := plain
      exact ⟨by omega, high⟩
    | item | entry => cases plain
  -- Induction on what can be written; only scalars hold integers.
  induction writable with
  | plain plain =>
    rcases plain.cases with scalar | ⟨items, rfl, scalars⟩
    · exact scalarRanged scalar
    · exact Value.ranged_array.mpr fun item listed => scalarRanged (scalars item listed)
  | table _ _ _ ih => exact Value.ranged_table.mpr ih
  | elements _ _ _ ih =>
    refine Value.ranged_array.mpr fun item listed => ?_
    obtain ⟨entries, member, rfl⟩ := List.mem_map.mp listed
    exact Value.ranged_table.mpr (ih entries member)

end NetworkLayer.Toml
