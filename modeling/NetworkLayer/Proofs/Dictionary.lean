import NetworkLayer.Dictionary

/-! The keys and values of a dictionary after values are put in, changed and taken out. -/

namespace NetworkLayer.Dictionary

variable {κ α : Type} [BEq κ] [LawfulBEq κ] {dictionary : Dictionary κ α} {key other : κ}

/-- A key is one that has a value. -/
theorem mem_keys_iff : key ∈ dictionary.keys ↔ (dictionary.get? key).isSome := by
  rcases dictionary with ⟨entries⟩
  simp only [keys, get?]
  -- The look-up walks the entries, and each of them adds one key.
  induction entries with
  | nil => simp
  | cons entry rest ih =>
    by_cases same : key = entry.1
    · simp [same]
    · simp [same, ih]

/-- The dictionary contains exactly its keys. -/
theorem contains_iff : dictionary.contains key ↔ key ∈ dictionary.keys := by
  rw [contains, mem_keys_iff]

/-- What has a value has a key. -/
theorem mem_keys_of_get? {value : α} (found : dictionary.get? key = some value) :
    key ∈ dictionary.keys := by
  simp [mem_keys_iff, found]

/-- Putting a value in adds its key. -/
theorem mem_keys_insert {value : α} :
    other ∈ (dictionary.insert key value).keys ↔ other = key ∨ other ∈ dictionary.keys := by
  rw [insert]
  split
  · -- A key that is there already keeps its place, and no key changes.
    rename_i present
    have same : (dictionary.entries.map fun entry =>
        if key == entry.1 then (entry.1, value) else entry).map Prod.fst =
        dictionary.entries.map Prod.fst := by
      rw [List.map_map]
      refine List.map_congr_left fun entry _ => ?_
      simp only [Function.comp_apply]
      split
      · rfl
      · rfl
    simp only [keys, same]
    -- The key is there already, so it makes no difference to say that it is.
    constructor
    · exact Or.inr
    · rintro (rfl | member)
      · exact contains_iff.mp present
      · exact member
  · simp [keys, or_comm]

/-- Erasing takes one key out. -/
theorem mem_keys_erase :
    other ∈ (dictionary.erase key).keys ↔ other ≠ key ∧ other ∈ dictionary.keys := by
  simp only [keys, erase, List.mem_map, List.mem_filter]
  -- An entry is kept exactly if its key is another one.
  constructor
  · rintro ⟨entry, ⟨member, kept⟩, rfl⟩
    refine ⟨fun same => ?_, entry, member, rfl⟩
    simp [same] at kept
  · rintro ⟨different, entry, member, rfl⟩
    exact ⟨entry, ⟨member, by simpa using Ne.symm different⟩, rfl⟩

/-- Changing the values under a key leaves those of the other keys alone. -/
theorem get?_modify {change : α → α} :
    (dictionary.modify key change).get? other =
      if other == key then (dictionary.get? other).map change else dictionary.get? other := by
  rcases dictionary with ⟨entries⟩
  simp only [modify, get?]
  -- The look-up stops at the same entry before and after.
  induction entries with
  | nil => simp
  | cons entry rest ih =>
    rcases entry with ⟨own, value⟩
    cases here : key == own with
    | true =>
      obtain rfl := eq_of_beq here
      cases found : other == key with
      | true => simp [List.lookup_cons, found]
      | false => simpa [List.lookup_cons, found] using ih
    | false =>
      cases found : other == own with
      | true =>
        obtain rfl := eq_of_beq found
        simp [here, Ne.symm (ne_of_beq_false here)]
      | false => simpa [List.lookup_cons, here, found] using ih

/-- A value that is put in is found under its key, and every other key keeps its value. -/
theorem get?_insert {value : α} :
    (dictionary.insert key value).get? other =
      if other == key then some value else dictionary.get? other := by
  rw [insert]
  split
  · -- Where the key has a value, that value is replaced.
    rename_i present
    obtain ⟨old, found⟩ := Option.isSome_iff_exists.mp present
    have replaced : (dictionary.modify key fun _ => value).get? other = _ := get?_modify
    rw [modify] at replaced
    rw [replaced]
    cases same : other == key with
    | true => simp [eq_of_beq same, found]
    | false => rfl
  · rename_i absent
    rw [contains, Bool.not_eq_true, Option.isSome_eq_false_iff, Option.isNone_iff_eq_none] at absent
    simp only [get?, List.lookup_append] at absent ⊢
    cases same : other == key with
    | true => simp [eq_of_beq same, absent]
    | false => simp [List.lookup_cons, same]

/-- Erasing a key takes its value out, and no other. -/
theorem get?_erase :
    (dictionary.erase key).get? other = if other == key then none else dictionary.get? other := by
  rcases dictionary with ⟨entries⟩
  simp only [erase, get?]
  -- The look-up of another key passes the entries that are taken out.
  induction entries with
  | nil => simp
  | cons entry rest ih =>
    rcases entry with ⟨own, value⟩
    cases here : key == own with
    | true =>
      obtain rfl := eq_of_beq here
      cases found : other == key with
      | true => simpa [found] using ih
      | false => simpa [List.lookup_cons, found] using ih
    | false =>
      cases found : other == own with
      | true =>
        obtain rfl := eq_of_beq found
        simp [here, Ne.symm (ne_of_beq_false here)]
      | false => simpa [List.lookup_cons, here, found] using ih

/-- What is found under a key is an entry. -/
theorem mem_entries_of_get? {value : α} (found : dictionary.get? key = some value) :
    (key, value) ∈ dictionary.entries := by
  obtain ⟨before, after, split, _⟩ := List.lookup_eq_some_iff.mp found
  rw [split]
  exact List.mem_append_right _ List.mem_cons_self

/-- A value that is put in under a new key comes last. -/
theorem entries_insert {value : α} (absent : key ∉ dictionary.keys) :
    (dictionary.insert key value).entries = dictionary.entries ++ [(key, value)] := by
  rw [insert, if_neg fun present => absent (contains_iff.mp present)]

omit [LawfulBEq κ] in
/-- Changing values changes no key. -/
theorem keys_modify {change : α → α} : (dictionary.modify key change).keys = dictionary.keys := by
  rw [keys, modify, List.map_map]
  -- Entry by entry the key is put back.
  refine List.map_congr_left fun entry _ => ?_
  simp only [Function.comp_apply]
  split
  · rfl
  · rfl

omit [LawfulBEq κ] in
/-- Keys that differ still do without one of them. -/
theorem nodup_keys_erase (distinct : dictionary.keys.Nodup) :
    (dictionary.erase key).keys.Nodup :=
  List.Nodup.sublist (List.Sublist.map Prod.fst List.filter_sublist) distinct

/-- If the keys differ, every entry is found under its key, and nothing else is. -/
theorem get?_eq_some_iff (distinct : dictionary.keys.Nodup) {value : α} :
    dictionary.get? key = some value ↔ (key, value) ∈ dictionary.entries := by
  refine ⟨mem_entries_of_get?, fun there => ?_⟩
  obtain ⟨before, after, split⟩ := List.append_of_mem there
  refine List.lookup_eq_some_iff.mpr ⟨before, after, split, fun entry member => ?_⟩
  -- An entry in front with the same key would not differ from this one.
  rw [keys, split, List.map_append, List.map_cons] at distinct
  have apart := (List.nodup_append.mp distinct).2.2 entry.1 (List.mem_map_of_mem member) key
    List.mem_cons_self
  simpa using Ne.symm apart

/-- Putting a value in leaves the entries of the other keys as they are. -/
theorem mem_entries_insert {value : α} {entry : κ × α} :
    entry ∈ (dictionary.insert key value).entries ↔
      entry = (key, value) ∨ entry.1 ≠ key ∧ entry ∈ dictionary.entries := by
  rcases entry with ⟨own, held⟩
  rw [insert]
  split
  · -- Where the key has an entry, that one is replaced.
    rename_i present
    obtain ⟨old, there⟩ := List.mem_map.mp (contains_iff.mp present)
    simp only [List.mem_map]
    constructor
    · -- The entry of the key shows the new value, and any other one is the entry that it was.
      rintro ⟨other, member, same⟩
      by_cases here : key = other.1
      · rw [if_pos (beq_iff_eq.mpr here), ← here] at same
        exact Or.inl same.symm
      · rw [if_neg (by simpa using here)] at same
        rw [same] at member here
        exact Or.inr ⟨Ne.symm here, member⟩
    · rintro (same | ⟨differ, member⟩)
      · exact ⟨old, there.1, by simp [there.2, same]⟩
      · exact ⟨(own, held), member, by simp [Ne.symm differ]⟩
  · rename_i absent
    rw [contains_iff] at absent
    simp only [List.mem_append, List.mem_singleton]
    -- The new entry comes last, and the key of an old one is another.
    constructor
    · rintro (member | same)
      · refine Or.inr ⟨fun same => absent ?_, member⟩
        exact same ▸ List.mem_map_of_mem (f := Prod.fst) member
      · exact Or.inl same
    · rintro (same | ⟨_, member⟩)
      · exact Or.inr same
      · exact Or.inl member

/-- Erasing a key leaves the entries of the other keys. -/
theorem mem_entries_erase {entry : κ × α} :
    entry ∈ (dictionary.erase key).entries ↔ entry.1 ≠ key ∧ entry ∈ dictionary.entries := by
  simp only [erase, List.mem_filter, Bool.not_eq_true', beq_eq_false_iff_ne]
  rw [and_comm, ne_comm]

/-- Keys that differ still do with a value put in. -/
theorem nodup_keys_insert (distinct : dictionary.keys.Nodup) {value : α} :
    (dictionary.insert key value).keys.Nodup := by
  by_cases present : key ∈ dictionary.keys
  · -- A key that is there keeps its place.
    have same : dictionary.insert key value = dictionary.modify key fun _ => value := by
      rw [insert, if_pos (contains_iff.mpr present), modify]
    rw [same, keys_modify]
    exact distinct
  · rw [keys, entries_insert present, List.map_append, List.nodup_append]
    refine ⟨distinct, List.pairwise_singleton .., fun other there last among => ?_⟩
    rw [List.map_cons, List.map_nil, List.mem_singleton] at among
    intro same
    rw [same, among] at there
    exact present there

/-- If the keys differ, erasing one takes exactly its entry out. -/
theorem perm_erase {value : α} (distinct : dictionary.keys.Nodup)
    (found : dictionary.get? key = some value) :
    dictionary.entries.Perm ((key, value) :: (dictionary.erase key).entries) := by
  rcases dictionary with ⟨entries⟩
  simp only [keys, get?, erase] at distinct found ⊢
  induction entries with
  | nil => cases found
  | cons entry rest ih =>
    rcases entry with ⟨own, first⟩
    rw [List.map_cons, List.nodup_cons] at distinct
    -- The induction is on the entries up to the one that has the key.
    cases here : key == own with
    | true =>
      -- The entry is the first one, and no other has its key.
      obtain rfl := eq_of_beq here
      have kept : rest.filter (fun other => !(key == other.1)) = rest := by
        rw [List.filter_eq_self]
        intro other inside
        rw [Bool.not_eq_true', beq_eq_false_iff_ne]
        intro same
        have member : other.1 ∈ rest.map (·.1) := List.mem_map_of_mem inside
        rw [← same] at member
        exact distinct.1 member
      simp only [List.lookup_cons, here] at found
      cases found
      simp [kept]
    | false =>
      simp only [List.lookup_cons, here] at found
      simp only [List.filter_cons, here, Bool.not_false, if_true]
      exact ((ih distinct.2 found).cons (own, first)).trans (List.Perm.swap ..)

end NetworkLayer.Dictionary
