import NetworkLayer.Proofs.Toml.Statement
import NetworkLayer.Proofs.Toml.Table

/-!
Written documents read back. Main statement: the text of a document is read as the same tables,
each with the values that have no section of their own in front of those that have one.
-/

namespace NetworkLayer.Toml

/-- Whether a text is read as some statements, whatever follows it. -/
def Reads (text : List Char) (said : List Statement) : Prop :=
  ∃ lines ≤ text.length, ∀ more rest,
    Reader.statements (lines + more) (text ++ rest) =
      (Reader.statements more rest).map (said ++ ·)

/-- No text is read as no statements. -/
theorem Reads.nil : Reads [] [] :=
  ⟨0, Nat.le_refl 0, fun more rest => by simp⟩

/-- Texts one after the other are read as their statements in a row. -/
theorem Reads.append {first second : List Char} {said next : List Statement}
    (front : Reads first said) (back : Reads second next) :
    Reads (first ++ second) (said ++ next) := by
  -- Both texts take the lines they need, one after the other.
  obtain ⟨lines, few, front⟩ := front
  obtain ⟨lines', few', back⟩ := back
  refine ⟨lines + lines', by rw [List.length_append]; omega, fun more rest => ?_⟩
  rw [List.append_assoc, Nat.add_assoc, front, back, Option.map_map]
  congr 1
  funext others
  simp

/-- A line is read as what it says. -/
theorem Reads.line {text : List Char} {said : Option Statement}
    (reads : ∀ rest, Reader.statement (text ++ '\n' :: rest) = some (said, rest)) :
    Reads (text ++ ['\n']) said.toList := by
  -- One line takes one step of the reader, and what follows is read as before.
  refine ⟨1, by simp, fun more rest => ?_⟩
  have written : text ++ ['\n'] ++ rest = text ++ '\n' :: rest := by simp
  rw [written, Nat.add_comm, Reader.statements, reads rest]
  · simp only [Option.bind_eq_bind, Option.bind_some]
    cases Reader.statements more rest <;> rfl
  · simp

/-- Statements that are read from a text are read with as many lines as it has characters. -/
theorem Reads.statements {text : List Char} {said : List Statement} (reads : Reads text said) :
    Reader.statements (text.length + 1) text = some said := by
  obtain ⟨lines, few, reads⟩ := reads
  -- There are enough lines for the text and some over, which find nothing left.
  have whole := reads (text.length + 1 - lines) []
  have enough : lines + (text.length + 1 - lines) = text.length + 1 := by omega
  have nothing : Reader.statements (text.length + 1 - lines) [] = some [] := by
    rw [Reader.statements]
  rw [enough, List.append_nil, nothing] at whole
  simpa using whole

/-- A text that is read as statements is the document that they make. -/
theorem Reads.parse {text : String} {said : List Statement} (reads : Reads text.toList said) :
    Toml.parse text = documentOf said := by
  have taken := reads.statements
  rw [Toml.parse]
  split
  · -- A text with the mark of the encoding in front is no row of statements.
    rename_i rest marked
    rw [marked, Reader.statements, Reader.statement_byteOrderMark] at taken
    · cases taken
    · simp
  · rw [taken]
    rfl

/-- The text of some lines. -/
def linesText (lines : List String) : List Char :=
  lines.flatMap fun line => line.toList ++ ['\n']

/-- The text of a section is that of its header and of its lines. -/
theorem Section.render_toList (part : Section) :
    part.render.toList = linesText (part.header.toList ++ part.lines) := by
  rw [Section.render, String.toList_join, List.flatMap_map, linesText]
  simp

/-- The statements of the values that have no section of their own. -/
def assigns (entries : List (String × Value)) : List Statement :=
  (entries.filter fun entry => !entry.2.isSection).map fun entry => .assign ⟨[entry.1], entry.2⟩

/-- The values of a table are written one by one. -/
theorem Value.inlineEntries_eq (entries : List (String × Value)) :
    inlineEntries entries =
      entries.map fun entry => keyText entry.1 ++ " = " ++ entry.2.inline := by
  induction entries with
  | nil => rfl
  | cons entry rest ih => rw [inlineEntries, List.map_cons, ih]

/-- The lines of plain values are read as their statements. -/
theorem reads_inlineEntries {own : List (String × Value)} (plain : ∀ entry ∈ own, entry.2.Plain) :
    Reads (linesText (Value.inlineEntries own))
      (own.map fun entry => .assign ⟨[entry.1], entry.2⟩) := by
  rw [Value.inlineEntries_eq]
  -- Induction on the values, each on a line of its own.
  induction own with
  | nil => exact .nil
  | cons entry rest ih =>
    obtain ⟨first, others⟩ := List.forall_mem_cons.mp plain
    exact (Reads.line (Reader.statement_assign entry.1 first)).append (ih others)

/-- Whether all values without a section of their own can be written on lines. -/
def OwnPlain (entries : List (String × Value)) : Prop :=
  ∀ entry ∈ entries, entry.2.isSection = false → entry.2.Plain

/-- The lines of the values without a section are read as their statements. -/
theorem reads_ownLines {entries : List (String × Value)} (plain : OwnPlain entries) :
    Reads (linesText (Section.ownLines entries)) (assigns entries) := by
  refine reads_inlineEntries fun entry listed => ?_
  obtain ⟨listed, apart⟩ := List.mem_filter.mp listed
  exact plain entry listed (by simpa using apart)

/-- A section is read as its header and its values. -/
theorem reads_section {entries : List (String × Value)} (plain : OwnPlain entries)
    {header : String} {opening : Statement}
    (opens : ∀ rest, Reader.statement (header.toList ++ '\n' :: rest) = some (some opening, rest)) :
    Reads (Section.render ⟨some header, Section.ownLines entries⟩).toList
      (opening :: assigns entries) := by
  rw [Section.render_toList]
  exact (Reads.line opens).append (reads_ownLines plain)

/-- The items of the values that have no section of their own. -/
def ownItems (entries : List (String × Value)) : Entries :=
  (entries.filter fun entry => !entry.2.isSection).map fun entry => (entry.1, .value entry.2)

mutual

/-- The item that a value becomes in a document that is read. -/
def itemOf : Value → Item
  | .table entries => .table .written (ownItems entries ++ sectionItems entries)
  | .array items =>
    if Value.isSection (.array items) then .elements (elementItems items) else .value (.array items)
  | value => .value value

/-- The items of the values that have sections of their own. -/
def sectionItems : List (String × Value) → Entries
  | [] => []
  | (key, value) :: rest =>
    if value.isSection then (key, itemOf value) :: sectionItems rest else sectionItems rest

/-- The entries of the tables of an array. -/
def elementItems : List Value → List Entries
  | [] => []
  | .table entries :: rest => (ownItems entries ++ sectionItems entries) :: elementItems rest
  | _ :: rest => elementItems rest

end

/-- Values that the layout can write so that they read back, with tables below tables in so many
levels at most. -/
inductive Writable : Nat → Value → Prop
  | plain {levels : Nat} {value : Value} (plain : value.Plain) : Writable levels value
  /-- A table that has only sections would be implied by their headers. -/
  | table {levels : Nat} {entries : List (String × Value)} (distinct : (entries.map (·.1)).Nodup)
      (headed : entries = [] ∨ ∃ entry ∈ entries, entry.2.isSection = false)
      (parts : ∀ entry ∈ entries, Writable levels entry.2) : Writable (levels + 1) (.table entries)
  | elements {levels : Nat} {tables : List (List (String × Value))} (nonempty : tables ≠ [])
      (distinct : ∀ entries ∈ tables, (entries.map (·.1)).Nodup)
      (parts : ∀ entries ∈ tables, ∀ entry ∈ entries, Writable levels entry.2) :
      Writable (levels + 1) (.array (tables.map .table))

/-- A scalar is no table. -/
theorem Value.Scalar.not_isTable {value : Value} (scalar : value.Scalar) : value.isTable = false := by
  cases value with
  | table entries => cases scalar
  | text _ | integer _ | boolean _ | float _ | dateTime _ | array _ => rfl

/-- A plain value takes no section. -/
theorem Value.Plain.not_isSection {value : Value} (plain : value.Plain) :
    value.isSection = false := by
  -- A plain value is a scalar or a list of scalars, and neither is a table or a list of tables.
  rcases plain.cases with scalar | ⟨items, rfl, scalars⟩
  · cases value with
    | table _ | array _ => cases scalar
    | text _ | integer _ | boolean _ | float _ | dateTime _ => rfl
  · cases items with
    | nil => rfl
    | cons item items =>
      simp [Value.isSection, (scalars item List.mem_cons_self).not_isTable]

/-- A plain value has no sections. -/
theorem Value.Plain.sectionsOf_eq_nil {value : Value} (plain : value.Plain) (path : List String) :
    sectionsOf path value = [] := by
  -- The two kinds of plain values have no section for different reasons: one has no parts, the other no table
  -- among them.
  rcases plain.cases with scalar | ⟨items, rfl, scalars⟩
  · cases value with
    | table _ | array _ => cases scalar
    | text _ | integer _ | boolean _ | float _ | dateTime _ => rw [sectionsOf] <;> simp
  · cases items with
    | nil => simp [sectionsOf, elementSections]
    | cons item items =>
      simp [sectionsOf, (scalars item List.mem_cons_self).not_isTable]

/-- A writable value without a section can be written on a line. -/
theorem Writable.plain_of_not_isSection {levels : Nat} {value : Value}
    (writable : Writable levels value) (apart : value.isSection = false) : value.Plain := by
  -- Tables and arrays of tables have sections of their own, so only a plain value is left.
  cases writable with
  | plain plain => exact plain
  | table => cases apart
  | @elements _ tables nonempty =>
    -- An array of tables is a section, since it has at least one.
    have section' : Value.isSection (.array (tables.map .table)) = true := by
      simp [Value.isSection, nonempty, Value.isTable]
    rw [section'] at apart
    cases apart

/-- Whether sections are read as some statements one after the other. -/
inductive Says : List Section → List Statement → Prop
  | nil : Says [] []
  | cons {part : Section} {parts : List Section} {said later : List Statement}
      (reads : Reads part.render.toList said) (rest : Says parts later) :
      Says (part :: parts) (said ++ later)

/-- More sections say more statements. -/
theorem Says.append {first second : List Section} {said later : List Statement}
    (front : Says first said) (back : Says second later) :
    Says (first ++ second) (said ++ later) := by
  induction front with
  | nil => exact back
  | cons reads _ ih =>
    rw [List.append_assoc]
    exact .cons reads ih

/-- The parts of a document, with empty lines between them, are read one after the other. -/
theorem Says.reads {parts : List Section} {said : List Statement} (spoken : Says parts said) :
    Reads ("\n".intercalate (parts.map Section.render)).toList said := by
  -- Induction on the parts. Between two of them stands an empty line, which says nothing.
  induction spoken with
  | nil => exact .nil
  | @cons part parts said later reads rest ih =>
    cases parts with
    | nil => simpa using reads.append ih
    | cons next parts =>
      have gap : Reads ([] ++ ['\n']) (none : Option Statement).toList :=
        Reads.line Reader.statement_empty
      have all := (reads.append gap).append ih
      simp only [String.toList_intercalate, List.map_cons, List.intercalate_cons_cons] at all ⊢
      simpa using all

/-- Whether sections, read into a document, change its entries from some to others. -/
def Turns (parts : List Section) (before after : Entries) : Prop :=
  ∃ said, Says parts said ∧ ∀ current, ∃ current',
    said.foldlM DocumentState.after ⟨before, current⟩ = some ⟨after, current'⟩

/-- No sections change nothing. -/
theorem Turns.nil {entries : Entries} : Turns [] entries entries :=
  ⟨[], .nil, fun current => ⟨current, rfl⟩⟩

/-- Sections one after the other change the entries one after the other. -/
theorem Turns.append {first second : List Section} {before between after : Entries}
    (front : Turns first before between) (back : Turns second between after) :
    Turns (first ++ second) before after := by
  obtain ⟨said, spoken, runs⟩ := front
  obtain ⟨later, saysLater, runsLater⟩ := back
  -- What is said by both is said in this order, whatever the current table was before.
  refine ⟨said ++ later, spoken.append saysLater, fun current => ?_⟩
  obtain ⟨middle, run⟩ := runs current
  obtain ⟨final, runLater⟩ := runsLater middle
  refine ⟨final, ?_⟩
  rw [List.foldlM_append, run]
  exact runLater

/-- A section changes the entries as its statements do. -/
theorem Turns.single {part : Section} {said : List Statement} {before after : Entries}
    (reads : Reads part.render.toList said)
    (runs : ∀ current, ∃ current',
      said.foldlM DocumentState.after ⟨before, current⟩ = some ⟨after, current'⟩) :
    Turns [part] before after :=
  ⟨said, by simpa using Says.cons reads .nil, runs⟩

/-- Entries with the same key are one, where all keys differ. -/
theorem eq_of_same_key {entries : List (String × Value)} (distinct : (entries.map (·.1)).Nodup)
    {left right : String × Value} (leftListed : left ∈ entries) (rightListed : right ∈ entries)
    (same : left.1 = right.1) : left = right := by
  induction entries with
  | nil => cases leftListed
  | cons entry rest ih =>
    obtain ⟨apart, distinct⟩ := List.nodup_cons.mp distinct
    -- Two entries at one place are the same, and one in front shares its key with none behind it.
    rcases List.mem_cons.mp leftListed with rfl | leftLater <;>
      rcases List.mem_cons.mp rightListed with rfl | rightLater
    · rfl
    · exact absurd (List.mem_map.mpr ⟨right, rightLater, same.symm⟩) apart
    · exact absurd (List.mem_map.mpr ⟨left, leftLater, same⟩) apart
    · exact ih distinct leftLater rightLater

/-- A value with sections does not have its key among those of the values without. -/
theorem fresh_ownItems {entries : List (String × Value)} (distinct : (entries.map (·.1)).Nodup)
    {entry : String × Value} (listed : entry ∈ entries) (apart : entry.2.isSection = true) :
    entry.1 ∉ (ownItems entries).keys := by
  intro taken
  simp only [ownItems, Entries.keys, List.map_map, List.mem_map, List.mem_filter] at taken
  obtain ⟨other, ⟨otherListed, own⟩, same⟩ := taken
  rw [eq_of_same_key distinct otherListed listed same, apart] at own
  cases own

section Runs

open Entries DocumentState

variable {path : List String} {origin : TableOrigin} {fill : Entries → Entries}

/-- Values under new keys join the table that was opened last one by one. -/
theorem foldlM_assign (place : Place path origin fill) {own : List (String × Value)}
    {entries : Entries} (distinct : (own.map (·.1)).Nodup)
    (fresh : ∀ entry ∈ own, entry.1 ∉ entries.keys) :
    (own.map fun entry => Statement.assign ⟨[entry.1], entry.2⟩).foldlM after
        ⟨fill entries, path⟩ =
      some ⟨fill (entries ++ own.map fun entry => (entry.1, .value entry.2)), path⟩ := by
  -- Induction on the values. Each goes to the end of the table, and its key is none of those that follow.
  induction own generalizing entries with
  | nil => simp
  | cons entry own ih =>
    obtain ⟨apart, distinct⟩ := List.nodup_cons.mp distinct
    obtain ⟨first, others⟩ := List.forall_mem_cons.mp fresh
    -- The keys that follow are new for the table with this value as well.
    have next : ∀ later ∈ own, later.1 ∉ keys (entries ++ [(entry.1, .value entry.2)]) := by
      intro later listed
      have differs : later.1 ≠ entry.1 := fun same =>
        apart (List.mem_map.mpr ⟨later, listed, same⟩)
      simp [others later listed, differs]
    rw [List.map_cons, List.foldlM_cons, after_assign place first]
    simp only [Option.bind_eq_bind, Option.bind_some]
    rw [ih distinct next]
    simp

/-- The values of a table that have no section of their own fill it. -/
theorem foldlM_assigns (place : Place path origin fill) {entries : List (String × Value)}
    (distinct : (entries.map (·.1)).Nodup) :
    (assigns entries).foldlM after ⟨fill [], path⟩ = some ⟨fill (ownItems entries), path⟩ := by
  have ownDistinct : ((entries.filter fun entry => !entry.2.isSection).map (·.1)).Nodup :=
    (List.filter_sublist.map _).nodup distinct
  rw [assigns, foldlM_assign place ownDistinct (by simp)]
  rfl

/-- A header with the values below it fills a new table. -/
theorem foldlM_section {opening : Statement} {before : Entries} {current : List String}
    (place : Place path origin fill)
    (opened : after ⟨before, current⟩ opening = some ⟨fill [], path⟩)
    {entries : List (String × Value)} (distinct : (entries.map (·.1)).Nodup) :
    (opening :: assigns entries).foldlM after ⟨before, current⟩ =
      some ⟨fill (ownItems entries), path⟩ := by
  rw [List.foldlM_cons, opened]
  simp only [Option.bind_eq_bind, Option.bind_some]
  exact foldlM_assigns place distinct

/-- Whether the sections of a value add its item under its key, in so many levels at most. -/
def Adds (levels : Nat) (value : Value) : Prop :=
  ∀ {path origin fill entries key}, Place path origin fill → path.length + levels ≤ longestKey →
    key ∉ keys entries →
    Turns (sectionsOf (path ++ [key]) value) (fill entries) (fill (entries ++ [(key, itemOf value)]))

/-- The sections of the values of a table add their items. -/
theorem turns_below {levels : Nat} (place : Place path origin fill)
    (short : path.length + levels ≤ longestKey) {entries : List (String × Value)}
    {before : Entries} (plain : OwnPlain entries)
    (adds : ∀ entry ∈ entries, entry.2.isSection = true → Adds levels entry.2)
    (distinct : (entries.map (·.1)).Nodup)
    (fresh : ∀ entry ∈ entries, entry.2.isSection = true → entry.1 ∉ before.keys) :
    Turns (sectionsBelow path entries) (fill before) (fill (before ++ sectionItems entries)) := by
  -- Induction on the entries, which keeps what is already in the table in front.
  induction entries generalizing before with
  | nil => simpa [sectionsBelow, sectionItems] using Turns.nil
  | cons entry rest ih =>
    obtain ⟨key, value⟩ := entry
    obtain ⟨plainFirst, plainRest⟩ := List.forall_mem_cons.mp plain
    obtain ⟨addsFirst, addsRest⟩ := List.forall_mem_cons.mp adds
    obtain ⟨freshFirst, freshRest⟩ := List.forall_mem_cons.mp fresh
    obtain ⟨apart, distinctRest⟩ := List.nodup_cons.mp distinct
    rw [sectionsBelow, sectionItems]
    -- A value without a section of its own was written with its table, and is passed here.
    cases kind : value.isSection with
    | false =>
      rw [(plainFirst kind).sectionsOf_eq_nil]
      simpa using ih plainRest addsRest distinctRest freshRest
    | true =>
      have first := addsFirst kind place short (freshFirst kind)
      -- The keys that follow are new for the table with this section as well.
      have next : ∀ later ∈ rest, later.2.isSection = true →
          later.1 ∉ keys (before ++ [(key, itemOf value)]) := by
        intro later listed section'
        have differs : later.1 ≠ key := fun same =>
          apart (List.mem_map.mpr ⟨later, listed, same⟩)
        simp [freshRest later listed section', differs]
      have others := ih plainRest addsRest distinctRest next
      simpa using first.append others

/-- A table under a new key is added with all that is below it. -/
theorem adds_table {levels : Nat} {entries : List (String × Value)}
    (distinct : (entries.map (·.1)).Nodup)
    (headed : entries = [] ∨ ∃ entry ∈ entries, entry.2.isSection = false)
    (plain : OwnPlain entries)
    (adds : ∀ entry ∈ entries, entry.2.isSection = true → Adds levels entry.2) :
    Adds (levels + 1) (.table entries) := by
  intro path origin fill before key place short fresh
  -- One name more stands in front of everything below the table.
  have deeper : (path ++ [key]).length + levels ≤ longestKey := by
    rw [List.length_append, List.length_singleton]
    omega
  have shortHeader : (path ++ [key]).length ≤ longestKey := by omega
  -- A table without lines of its own is left out unless it is empty, and this one has a line or is empty.
  have head : ((Section.ownLines entries).isEmpty && !entries.isEmpty) = false := by
    rcases headed with rfl | ⟨entry, listed, apart⟩
    · rfl
    · have own : Section.ownLines entries ≠ [] := by
        rw [Section.ownLines, Value.inlineEntries_eq]
        intro empty
        have none := List.map_eq_nil_iff.mp empty
        exact List.filter_eq_nil_iff.mp none entry listed (by simp [apart])
      simp [own]
  have table := place.table fresh
  have below := turns_below table deeper plain adds distinct
    fun entry listed apart => fresh_ownItems distinct listed apart
  rw [sectionsOf, head, itemOf]
  -- First the header with the own lines, then the sections below.
  have opened := Turns.single (reads_section plain (Reader.statement_table (by simp) shortHeader))
    fun current => ⟨_, foldlM_section table (after_table place fresh current) distinct⟩
  exact opened.append below

/-- The tables of an array under a new key are added one by one. -/
theorem turns_elements {levels : Nat} (place : Place path origin fill)
    (short : path.length + (levels + 1) ≤ longestKey) {before : Entries} {key : String}
    (fresh : key ∉ before.keys) {tables : List (List (String × Value))} (done : List Entries)
    (distinct : ∀ entries ∈ tables, (entries.map (·.1)).Nodup)
    (plain : ∀ entries ∈ tables, OwnPlain entries)
    (adds : ∀ entries ∈ tables, ∀ entry ∈ entries, entry.2.isSection = true →
      Adds levels entry.2) :
    Turns (elementSections (path ++ [key]) (tables.map .table))
      (fill (withElements before key done))
      (fill (withElements before key (done ++ elementItems (tables.map .table)))) := by
  have deeper : (path ++ [key]).length + levels ≤ longestKey := by
    rw [List.length_append, List.length_singleton]
    omega
  have shortHeader : (path ++ [key]).length ≤ longestKey := by omega
  -- Induction on the tables, with those that are done in front.
  induction tables generalizing done with
  | nil => simpa [elementSections, elementItems] using Turns.nil
  | cons entries tables ih =>
    obtain ⟨distinctFirst, distinctRest⟩ := List.forall_mem_cons.mp distinct
    obtain ⟨plainFirst, plainRest⟩ := List.forall_mem_cons.mp plain
    obtain ⟨addsFirst, addsRest⟩ := List.forall_mem_cons.mp adds
    have element := place.element fresh done
    have below := turns_below element deeper plainFirst addsFirst distinctFirst
      fun entry listed apart => fresh_ownItems distinctFirst listed apart
    have others := ih (done ++ [ownItems entries ++ sectionItems entries]) distinctRest plainRest
      addsRest
    -- After the first element the array is there, so those that follow go behind it.
    have reached : withElements before key (done ++ [ownItems entries ++ sectionItems entries]) =
        before ++ [(key, .elements (done ++ [ownItems entries ++ sectionItems entries]))] := by
      cases done <;> rfl
    rw [reached] at others
    rw [List.map_cons, elementSections, elementItems]
    -- Each element is its header with the own lines, and then the sections below it.
    have opened := Turns.single
      (reads_section plainFirst (Reader.statement_element (by simp) shortHeader))
      fun current => ⟨_, foldlM_section element (after_element place fresh done current)
        distinctFirst⟩
    have final := opened.append (below.append others)
    rw [List.append_assoc] at final
    exact final

/-- The sections of a writable value add its item. -/
theorem Writable.adds {levels : Nat} {value : Value} (writable : Writable levels value)
    (section' : value.isSection = true) : Adds levels value := by
  -- Induction on what can be written: a table and an array of tables add the sections of their parts.
  induction writable with
  | plain plain =>
    rw [plain.not_isSection] at section'
    cases section'
  | table distinct headed parts ih =>
    exact adds_table distinct headed
      (fun entry listed apart => (parts entry listed).plain_of_not_isSection apart) ih
  | @elements levels tables nonempty distinct parts ih =>
    intro path origin fill before key place short fresh
    have whole := turns_elements place short fresh [] distinct
      (fun entries listed entry within apart =>
        (parts entries listed entry within).plain_of_not_isSection apart) ih
    have tablesOnly : (tables.map Value.table).all Value.isTable = true := by
      simp [Value.isTable]
    -- An array that has elements stands in its entry as they are.
    have reached : withElements before key ([] ++ elementItems (tables.map .table)) =
        before ++ [(key, itemOf (.array (tables.map .table)))] := by
      rw [itemOf, if_pos section']
      cases tables with
      | nil => exact absurd rfl nonempty
      | cons entries tables => simp [withElements, elementItems]
    rw [reached] at whole
    rw [sectionsOf, if_pos tablesOnly]
    exact whole

/-- The entries of a document that was written: the values with sections of their own come behind
the others. -/
def settledEntries (entries : List (String × Value)) : List (String × Value) :=
  Item.valuesOf (ownItems entries ++ sectionItems entries)

/-- A written document reads back. -/
theorem parse_render {levels : Nat} (short : levels ≤ longestKey) {entries : List (String × Value)}
    (distinct : (entries.map (·.1)).Nodup) (parts : ∀ entry ∈ entries, Writable levels entry.2) :
    Toml.parse (Toml.render entries) = some (settledEntries entries) := by
  have plain : OwnPlain entries := fun entry listed apart =>
    (parts entry listed).plain_of_not_isSection apart
  -- The document is its top lines, and after them all sections of the values.
  obtain ⟨said, spoken, runs⟩ := turns_below Place.top (by simpa using short) plain
    (fun entry listed apart => (parts entry listed).adds apart) distinct
    fun entry listed apart => fresh_ownItems distinct listed apart
  obtain ⟨current, below⟩ : ∃ current, said.foldlM after ⟨ownItems entries, []⟩ =
      some ⟨ownItems entries ++ sectionItems entries, current⟩ := runs []
  have top : (assigns entries).foldlM after ⟨[], []⟩ = some ⟨ownItems entries, []⟩ :=
    foldlM_assigns Place.top distinct
  have whole : documentOf (assigns entries ++ said) = some (settledEntries entries) := by
    rw [documentOf, List.foldlM_append, top]
    simp only [Option.bind_eq_bind, Option.bind_some]
    rw [below]
    rfl
  -- Without top lines nothing is written in front of the first section, and nothing is said there.
  cases empty : (Section.ownLines entries).isEmpty with
  | true =>
    have none : assigns entries = [] := by
      rw [Section.ownLines, Value.inlineEntries_eq, List.isEmpty_iff, List.map_eq_nil_iff] at empty
      rw [assigns, empty, List.map_nil]
    have written : Toml.render entries =
        "\n".intercalate ((sectionsBelow [] entries).map Section.render) := by
      simp [Toml.render, empty]
    rw [none] at whole
    rw [written, spoken.reads.parse]
    exact whole
  -- With top lines they form a part without a header.
  | false =>
    have written : Toml.render entries =
        "\n".intercalate ((⟨none, Section.ownLines entries⟩ :: sectionsBelow [] entries).map
          Section.render) := by
      simp [Toml.render, empty]
    have first : Reads (Section.render ⟨none, Section.ownLines entries⟩).toList (assigns entries) := by
      rw [Section.render_toList]
      exact reads_ownLines plain
    rw [written, (Says.cons first spoken).reads.parse]
    exact whole

end Runs

end NetworkLayer.Toml
