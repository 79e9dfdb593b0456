import NetworkLayer.Config.Encoding
import NetworkLayer.Proofs.Toml.Layout

/-!
Records as tables of a written document. Main statements: a record with plain fields can be written,
and whatever the layout does to the order of its fields, each is found under its key again.
-/

namespace NetworkLayer.Toml

/-- A value without sections stays as it is. -/
theorem itemOf_of_not_isSection {value : Value} (apart : value.isSection = false) :
    itemOf value = .value value := by
  cases value with
  | table _ => cases apart
  | array items => rw [itemOf, apart]; rfl
  | text _ | integer _ | boolean _ | float _ | dateTime _ => rw [itemOf] <;> simp

/-- The values without sections have no other keys than all values. -/
theorem keys_ownItems_subset (entries : List (String × Value)) :
    (ownItems entries).keys ⊆ entries.map (·.1) := by
  intro key listed
  simp only [ownItems, Entries.keys, List.map_map, List.mem_map, List.mem_filter] at listed
  obtain ⟨entry, ⟨member, -⟩, same⟩ := listed
  exact List.mem_map.mpr ⟨entry, member, same⟩

/-- Every value of a table has its item under its key. -/
theorem lookup_items {entries : List (String × Value)} (distinct : (entries.map (·.1)).Nodup)
    (key : String) :
    List.lookup key (ownItems entries ++ sectionItems entries) =
      (entries.lookup key).map itemOf := by
  -- Induction on the entries: one without a section is found in front, and one with a section behind all of
  -- those.
  induction entries with
  | nil => rfl
  | cons entry rest ih =>
    obtain ⟨name, value⟩ := entry
    obtain ⟨apart, distinct⟩ := List.nodup_cons.mp distinct
    have others := ih distinct
    cases kind : value.isSection with
    | false =>
      have written : ownItems ((name, value) :: rest) ++ sectionItems ((name, value) :: rest) =
          (name, itemOf value) :: (ownItems rest ++ sectionItems rest) := by
        simp [ownItems, sectionItems, kind, itemOf_of_not_isSection kind]
      rw [written, List.lookup_cons, List.lookup_cons, others]
      cases key == name <;> rfl
    | true =>
      have written : ownItems ((name, value) :: rest) ++ sectionItems ((name, value) :: rest) =
          ownItems rest ++ (name, itemOf value) :: sectionItems rest := by
        simp [ownItems, sectionItems, kind]
      rw [List.lookup_append] at others
      rw [written, List.lookup_append, List.lookup_cons, List.lookup_cons]
      cases same : key == name with
      | false => exact others
      -- Its key is none of the others, so none of the items in front is found instead.
      | true =>
        have fresh : key ∉ (ownItems rest).keys := by
          rw [beq_iff_eq.mp same]
          exact fun listed => apart (keys_ownItems_subset rest listed)
        rw [Entries.lookup_of_fresh fresh]
        rfl

/-- Finished entries are found where their items are. -/
theorem lookup_valuesOf (entries : Entries) (key : String) :
    (Item.valuesOf entries).lookup key = (entries.lookup key).map Item.toValue := by
  induction entries with
  | nil => rfl
  | cons entry rest ih =>
    rw [Item.valuesOf, List.lookup_cons, List.lookup_cons, ih]
    cases key == entry.1 <;> rfl

namespace Value

/-- A value as a written document holds it: the values with sections of their own come behind the
others in each of its tables. -/
def settled (value : Value) : Value := (itemOf value).toValue

/-- An array of texts is plain. -/
theorem plain_texts (items : List String) : (texts items).Plain := by
  intro item listed
  obtain ⟨content, -, rfl⟩ := List.mem_map.mp listed
  trivial

/-- A plain value is held as it is. -/
theorem settled_of_plain {value : Value} (plain : value.Plain) : value.settled = value := by
  rw [settled, itemOf_of_not_isSection plain.not_isSection, Item.toValue]

@[simp] theorem settled_text (content : String) : settled (.text content) = .text content :=
  settled_of_plain trivial

@[simp] theorem settled_boolean (flag : Bool) : settled (.boolean flag) = .boolean flag :=
  settled_of_plain trivial

@[simp] theorem settled_natural (number : Nat) : settled (natural number) = natural number := by
  rw [natural, settled, itemOf_of_not_isSection rfl, Item.toValue]

@[simp] theorem settled_texts (items : List String) : settled (texts items) = texts items :=
  settled_of_plain (plain_texts items)

/-- The entries of a table are held in the order of the document. -/
theorem settled_table (entries : List (String × Value)) :
    settled (.table entries) = .table (settledEntries entries) := by
  rw [settled, itemOf, Item.toValue, settledEntries]

/-- The tables of an array are held one by one. -/
theorem settled_tables {α : Type} (fields : α → List (String × Value)) (records : List α) :
    settled (.array (records.map fun record => .table (fields record))) =
      .array (records.map fun record => settled (.table (fields record))) := by
  -- One by one, each element holds the values of its table.
  have elements : Item.tablesOf (elementItems (records.map fun record => .table (fields record))) =
      records.map fun record => settled (.table (fields record)) := by
    induction records with
    | nil => rfl
    | cons record records ih =>
      rw [List.map_cons, elementItems, Item.tablesOf, ih, List.map_cons, settled_table,
        settledEntries]
  -- An empty array is a plain value, and any other one is a section.
  cases records with
  | nil => exact settled_of_plain fun item listed => by cases listed
  | cons record records =>
    have section' : isSection (.array ((record :: records).map fun record =>
        .table (fields record))) = true := by
      simp [isSection, isTable]
    rw [settled, itemOf, if_pos section', Item.toValue, elements]

/-- A record is read from what a document holds if it is read from the fields under their keys. -/
theorem bind_record? {α : Type} {entries : List (String × Value)} {names : List String}
    {read : (String → Option Value) → Option α} {record : α}
    (distinct : (entries.map (·.1)).Nodup)
    (back : ∀ field, (∀ key, field key = (entries.lookup key).map settled) →
      read field = some record) :
    ((settled (.table entries)).record? names).bind read = some record := by
  rw [settled_table, record?, Option.bind_some]
  refine back _ fun key => ?_
  rw [settledEntries, lookup_valuesOf, lookup_items distinct, Option.map_map]
  rfl

/-- An entry under another key is passed. -/
theorem lookup_of_ne {key name : String} (other : key ≠ name) (value : Value)
    (rest : List (String × Value)) : List.lookup key ((name, value) :: rest) = rest.lookup key := by
  rw [List.lookup_cons, beq_eq_false_iff_ne.mpr other]

/-- A field that may be missing is passed under another key. -/
theorem lookup_given_of_ne {key name : String} (other : key ≠ name) (value : Option String)
    (rest : List (String × Value)) :
    List.lookup key (given name value ++ rest) = rest.lookup key := by
  cases value with
  | none => simp [given]
  | some content => simp [given, lookup_of_ne other]

/-- A field that is there is read, whatever would stand for it. -/
theorem withDefault_some {α : Type} (standard : α) (read : Value → Option α) (value : Value) :
    withDefault standard read (some value) = read value := by
  rw [withDefault]

/-- A field that is there is read. -/
theorem bind_field {α : Type} (read : Value → Option α) (value : Value) :
    (some value).bind read = read value := by
  -- `Option.bind_some` is a definitional step, which the kernel would retrace through the record.
  rw [Option.bind_some]

/-- Items that are read back one by one are read back as an array. -/
theorem list?_map {α : Type} {read : Value → Option α} {write : α → Value}
    (back : ∀ item, read (write item) = some item) (items : List α) :
    list? read (.array (items.map write)) = some items := by
  rw [list?]
  induction items with
  | nil => rfl
  | cons item items ih =>
    rw [List.map_cons, List.mapM_cons, back, ih]
    rfl

/-- Records that are read back one by one are read back as an array of tables. -/
theorem list?_settled {α : Type} {read : Value → Option α} (fields : α → List (String × Value))
    (back : ∀ record, read (settled (.table (fields record))) = some record) (records : List α) :
    list? read (settled (.array (records.map fun record => .table (fields record)))) =
      some records := by
  rw [settled_tables]
  exact list?_map back records

/-- The texts of an array read back. -/
theorem list?_texts (items : List String) : list? text? (texts items) = some items := by
  have back : ∀ item, text? (.text item) = some item := fun _ => rfl
  exact list?_map back items

/-- A number below the limit reads back. -/
theorem natural?_natural {limit number : Nat} (small : number < limit) :
    natural? limit (natural number) = some number := by
  have below : (number : Int) < limit := Int.ofNat_lt.mpr small
  simp [natural, natural?, below]

/-- A 16-bit number reads back. -/
theorem port?_natural (port : UInt16) : port? (natural port.toNat) = some port := by
  have small : port.toNat < 1 <<< 16 := port.toNat_lt
  rw [port?, natural?_natural small, Option.map_some, UInt16.ofNat_toNat]

end Value

/-- A table of plain values can be written. -/
theorem Writable.flat {levels : Nat} {entries : List (String × Value)}
    (distinct : (entries.map (·.1)).Nodup) (plain : ∀ entry ∈ entries, entry.2.Plain) :
    Writable (levels + 1) (.table entries) := by
  refine .table distinct ?_ fun entry listed => .plain (plain entry listed)
  cases entries with
  | nil => exact .inl rfl
  | cons entry rest =>
    exact .inr ⟨entry, List.mem_cons_self, (plain entry List.mem_cons_self).not_isSection⟩

/-- An array of tables of plain values can be written, also without any table. -/
theorem Writable.records {levels : Nat} {α : Type} (fields : α → List (String × Value))
    (distinct : ∀ record, ((fields record).map (·.1)).Nodup)
    (plain : ∀ record, ∀ entry ∈ fields record, entry.2.Plain) (records : List α) :
    Writable (levels + 1) (.array (records.map fun record => .table (fields record))) := by
  -- An empty array is a plain value, and any other one has elements.
  cases records with
  | nil => exact .plain fun item listed => by cases listed
  | cons record records =>
    have tables : (record :: records).map (fun record => Value.table (fields record)) =
        ((record :: records).map fields).map .table := by
      rw [List.map_map]
      rfl
    rw [tables]
    refine .elements (by simp) ?_ ?_
    · intro entries listed
      obtain ⟨one, -, rfl⟩ := List.mem_map.mp listed
      exact distinct one
    · intro entries listed entry within
      obtain ⟨one, -, rfl⟩ := List.mem_map.mp listed
      exact .plain (plain one entry within)

namespace Value

@[simp] theorem plain_text (content : String) : (text content).Plain := trivial

@[simp] theorem plain_boolean (flag : Bool) : (boolean flag).Plain := trivial

/-- A number of at most 63 bits is plain. -/
theorem plain_natural {number : Nat} (small : number < 0x8000000000000000) :
    (natural number).Plain := by
  have low : (0 : Int) ≤ number := Int.natCast_nonneg number
  have high : (number : Int) < 0x8000000000000000 := by omega
  exact ⟨low, high⟩

/-- A 16-bit number is plain. -/
theorem plain_port (port : UInt16) : (natural port.toNat).Plain :=
  plain_natural (Nat.lt_trans port.toNat_lt (by decide))

/-- A field that may be missing is plain if it is there. -/
theorem plain_given (key : String) (value : Option String) :
    ∀ entry ∈ given key value, entry.2.Plain := by
  intro entry listed
  obtain ⟨content, -, rfl⟩ := List.mem_map.mp listed
  trivial

end Value

end NetworkLayer.Toml
