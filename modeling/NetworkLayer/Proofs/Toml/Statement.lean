import NetworkLayer.Proofs.Toml.Value

/-!
Keys, headers and lines read back. Main statement: a line of a written document is read as its
statement, and what stands behind it is left.
-/

namespace NetworkLayer.Toml

namespace Reader

/-- A character that needs no quotes is not one that does. -/
theorem ne_of_isBare {c mark : Char} (bare : isBare c) (other : isBare mark = false) :
    c ≠ mark := by
  rintro rfl
  rw [bare] at other
  cases other

/-- A written key begins with a quote, or with a character that needs none. -/
theorem keyText_eq_cons (key : String) :
    ∃ first more, (Value.keyText key).toList = first :: more ∧ (first = '"' ∨ isBare first) := by
  -- A bare key is not empty, and any other key is quoted.
  rw [Value.keyText]
  split
  · rename_i bare
    simp only [Bool.and_eq_true, decide_eq_true_eq, List.all_eq_true] at bare
    cases shape : key.toList with
    | nil => exact absurd (String.toList_eq_nil_iff.mp shape) bare.1
    | cons first more =>
      exact ⟨first, more, rfl, .inr (bare.2 first (shape ▸ List.mem_cons_self))⟩
  · obtain ⟨more, written⟩ := Quoting.quote_eq_cons ⟨true, false⟩ key.toList
    exact ⟨'"', more, by rw [String.toList_ofList, written]; rfl, .inl rfl⟩

/-- A written key reads back, in front of what can neither go on nor close it. -/
theorem keyPart_keyText (key : String) {stop : Char} (other : isBare stop = false)
    (noQuote : stop ≠ '"') (rest : List Char) :
    keyPart ((Value.keyText key).toList ++ stop :: rest) = some (key, stop :: rest) := by
  -- Quotes are tried first, and a bare key begins with none.
  rw [Value.keyText, keyPart, orElse_apply, bind_apply]
  split
  · rename_i bare
    simp only [Bool.and_eq_true, decide_eq_true_eq, List.all_eq_true] at bare
    have run := span_append bare.2 other rest
    cases shape : key.toList with
    | nil => exact absurd (String.toList_eq_nil_iff.mp shape) bare.1
    | cons first more =>
      have firstBare : isBare first := bare.2 first (shape ▸ List.mem_cons_self)
      have noDouble : first ≠ '"' := ne_of_isBare firstBare (by decide)
      have noSingle : first ≠ '\'' := ne_of_isBare firstBare (by decide)
      have whole : String.ofList (first :: more) = key := by rw [← shape, String.ofList_toList]
      rw [shape, List.cons_append] at run
      rw [List.cons_append, quotedLine?_of_ne noDouble noSingle, Option.bind_none,
        Option.orElse_none, bind_apply, run, Option.bind_some]
      simp only [List.isEmpty_cons, Bool.false_eq_true, if_false, whole]
      rfl
  · -- In quotes the key reads back as a text does.
    have unquoted : (stop :: rest).head? ≠ some '"' := by simpa using noQuote
    have read := quotedLine?_quote key.toList unquoted
    rw [String.toList_ofList, read, Option.bind_some, String.ofList_toList]
    rfl

/-- Blanks are taken up to the first other character. -/
theorem blanks_append {blank : List Char} (blanks : blank = [] ∨ blank = [' ']) {stop : Char}
    (other : (stop = ' ' || stop = '\t') = false) (rest : List Char) :
    Reader.blanks (blank ++ stop :: rest) = some ((), stop :: rest) := by
  have accepted : ∀ c ∈ blank, (c = ' ' || c = '\t') = true := by
    rcases blanks with rfl | rfl <;> simp
  rw [Reader.blanks, bind_apply, span_append accepted other]
  rfl

/-- What may stand behind a part of a key: the end of a header, the next part, or an equals sign. -/
def EndsKey (c : Char) : Prop := c = ']' ∨ c = '.' ∨ c = '='

/-- A part of a key is taken with the blanks behind it. -/
theorem padded_keyText (key : String) {blank : List Char} (blanks : blank = [] ∨ blank = [' '])
    {stop : Char} (ends : EndsKey stop) (rest : List Char) :
    padded keyPart ((Value.keyText key).toList ++ (blank ++ stop :: rest)) =
      some (key, stop :: rest) := by
  have front : Reader.blanks ((Value.keyText key).toList ++ (blank ++ stop :: rest)) =
      some ((), (Value.keyText key).toList ++ (blank ++ stop :: rest)) := by
    -- No key begins with a blank, so the blanks in front are none.
    obtain ⟨first, more, written, begins⟩ := keyText_eq_cons key
    have noBlank : (first = ' ' || first = '\t') = false := by
      rcases begins with rfl | bare
      · decide
      · have noSpace : first ≠ ' ' := ne_of_isBare bare (by decide)
        have noTab : first ≠ '\t' := ne_of_isBare bare (by decide)
        simp [noSpace, noTab]
    rw [written]
    exact blanks_append (.inl rfl) noBlank _
  have back : Reader.blanks (blank ++ stop :: rest) = some ((), stop :: rest) :=
    blanks_append blanks (by rcases ends with rfl | rfl | rfl <;> decide) rest
  -- Whatever stands behind the key, a blank or its end, neither goes on nor is a quote.
  have read : keyPart ((Value.keyText key).toList ++ (blank ++ stop :: rest)) =
      some (key, blank ++ stop :: rest) := by
    rcases blanks with rfl | rfl
    · rcases ends with rfl | rfl | rfl <;> exact keyPart_keyText key (by decide) (by decide) rest
    · exact keyPart_keyText key (by decide) (by decide) _
  rw [padded, bind_apply, front, Option.bind_some, bind_apply, read, Option.bind_some, bind_apply,
    back]
  rfl

/-- The parts of a key behind the first one. -/
def partsText (path : List String) : List Char :=
  path.flatMap fun key => '.' :: (Value.keyText key).toList

/-- A part is taken up to the next one, or up to the end of the header. -/
theorem padded_partsText (key : String) (path : List String) (rest : List Char) :
    padded keyPart ((Value.keyText key).toList ++ (partsText path ++ ']' :: rest)) =
      some (key, partsText path ++ ']' :: rest) := by
  -- Behind the part stands the dot of the next one, or the closing bracket.
  cases path with
  | nil => exact padded_keyText key (.inl rfl) (.inl rfl) rest
  | cons next path =>
    have written : partsText (next :: path) ++ ']' :: rest =
        [] ++ '.' :: ((Value.keyText next).toList ++ (partsText path ++ ']' :: rest)) := by
      simp [partsText]
    rw [written]
    exact padded_keyText key (.inl rfl) (.inr (.inl rfl)) _

/-- The parts of a key behind the first one are taken up to the end of the header. -/
theorem more_partsText {path : List String} {count : Nat} (enough : path.length ≤ count)
    (rest : List Char) :
    more '.' (padded keyPart) count (partsText path ++ ']' :: rest) = some (path, ']' :: rest) := by
  -- Induction on the parts, each of which stands behind a dot.
  induction path generalizing count with
  | nil => exact more_of_ne (by decide) ..
  | cons key path ih =>
    cases count with
    | zero => cases enough
    | succ count =>
      have dot : char '.' (partsText (key :: path) ++ ']' :: rest) =
          some ((), (Value.keyText key).toList ++ (partsText path ++ ']' :: rest)) := by
        rw [← char_cons '.']
        simp [partsText]
      rw [more, orElse_apply, bind_apply, dot, Option.bind_some, bind_apply, padded_partsText,
        Option.bind_some, bind_apply, ih (Nat.le_of_succ_le_succ enough)]
      rfl

/-- The name of a table in a header is its first key and the parts behind it. -/
theorem pathText_cons (first : String) (path : List String) :
    (Section.pathText (first :: path)).toList = (Value.keyText first).toList ++ partsText path := by
  rw [Section.pathText, String.toList_intercalate, List.map_map, List.map_cons]
  -- Induction on the parts behind the first one, each with its dot.
  induction path generalizing first with
  | nil => simp [partsText]
  | cons next path ih =>
    rw [List.map_cons, List.intercalate_cons_cons, ih next]
    simp [partsText]

/-- There are no more parts than characters in their text. -/
theorem length_le_partsText (path : List String) : path.length ≤ (partsText path).length := by
  induction path with
  | nil => exact Nat.zero_le _
  | cons key path ih =>
    simp only [partsText, List.flatMap_cons, List.length_append, List.length_cons] at ih ⊢
    omega

/-- The name of a table reads back. -/
theorem key_pathText {path : List String} (nonempty : path ≠ []) (short : path.length ≤ longestKey)
    (rest : List Char) :
    key ((Section.pathText path).toList ++ ']' :: rest) = some (path, ']' :: rest) := by
  cases path with
  | nil => exact absurd rfl nonempty
  | cons first path =>
    -- There are no more parts than characters, which is what the reader has to go on.
    have enough : path.length ≤ (partsText path ++ ']' :: rest).length := by
      rw [List.length_append]
      exact Nat.le_trans (length_le_partsText path) (Nat.le_add_right _ _)
    have parts := separated_of_more (padded_partsText first path rest) (more_partsText enough rest)
    rw [pathText_cons, List.append_assoc, Reader.key, bind_apply, parts, Option.bind_some,
      if_pos short]
    rfl

/-- The key of a value reads back. -/
theorem key_keyText (name : String) (rest : List Char) :
    key ((Value.keyText name).toList ++ ([' '] ++ '=' :: rest)) = some ([name], '=' :: rest) := by
  have nothing (count : Nat) : more '.' (padded keyPart) count ('=' :: rest) =
      some ([], '=' :: rest) := more_of_ne (by decide) ..
  -- Behind the key stands the sign, which is no dot.
  have part := separated_of_more (padded_keyText name (.inr rfl) (.inr (.inr rfl)) rest)
    (nothing _)
  rw [Reader.key, bind_apply, part]
  rfl

/-- Whether a character begins what a line says: a key or a header. -/
def Begins (c : Char) : Prop := c = '[' ∨ c = '"' ∨ isBare c

/-- What begins a line is neither a blank nor a comment nor a line end. -/
theorem Begins.ne {c : Char} (begins : Begins c) :
    (c = ' ' || c = '\t') = false ∧ c ≠ '#' ∧ c ≠ '\n' ∧ c ≠ '\r' := by
  -- A bracket, a quote, or a character that a bare key may have.
  rcases begins with rfl | rfl | bare
  · decide
  · decide
  · have noSpace : c ≠ ' ' := ne_of_isBare bare (by decide)
    have noTab : c ≠ '\t' := ne_of_isBare bare (by decide)
    exact ⟨by simp [noSpace, noTab], ne_of_isBare bare (by decide), ne_of_isBare bare (by decide),
      ne_of_isBare bare (by decide)⟩

/-- What begins a line does not end it. -/
theorem endOfLine_of_begins {c : Char} (begins : Begins c) (rest : List Char) :
    endOfLine (c :: rest) = none := by
  obtain ⟨noBlank, noComment, noLine, noReturn⟩ := begins.ne
  -- The line is no end of line, has no blank in front and is no comment.
  have unended : lineEnd? (c :: rest) = none := by
    refine Quoting.lineEnd?_eq_none fun first same => ?_
    cases same
    exact ⟨noLine, noReturn⟩
  have blank : blanks (c :: rest) = some ((), c :: rest) := blanks_append (.inl rfl) noBlank rest
  rw [endOfLine, bind_apply, blank, Option.bind_some, bind_apply, optional_apply, bind_apply,
    char_of_ne noComment]
  simp [unended]

/-- What a statement says behind the blanks in front of it. -/
theorem statement_of_begins {c : Char} (begins : Begins c) (rest : List Char) :
    statement (c :: rest) =
      ((do
        char '['
        char '['
        let path ← key
        char ']'
        char ']'
        endOfLine
        return some (.element path)) <|>
      (do
        char '['
        let path ← key
        char ']'
        endOfLine
        return some (.table path)) <|>
      do
        let assignment ← assignment (Reader.value deepestNesting)
        endOfLine
        return some (.assign assignment) : Reader (Option Statement)) (c :: rest) := by
  have blank : blanks (c :: rest) = some ((), c :: rest) :=
    blanks_append (.inl rfl) begins.ne.1 rest
  rw [statement, bind_apply, blank, Option.bind_some, orElse_apply, bind_apply,
    endOfLine_of_begins begins]
  rfl

/-- An empty line says nothing. -/
theorem statement_empty (rest : List Char) : statement ('\n' :: rest) = some (none, rest) := rfl

/-- The header of an element reads back. -/
theorem statement_element {path : List String} (nonempty : path ≠ [])
    (short : path.length ≤ longestKey) (rest : List Char) :
    statement (("[[" ++ Section.pathText path ++ "]]").toList ++ '\n' :: rest) =
      some (some (.element path), rest) := by
  have written : ("[[" ++ Section.pathText path ++ "]]").toList ++ '\n' :: rest =
      '[' :: '[' :: ((Section.pathText path).toList ++ ']' :: ']' :: '\n' :: rest) := by
    simp
  -- Both brackets are taken before the name and after it.
  rw [written, statement_of_begins (.inl rfl), orElse_apply, bind_apply, char_cons,
    Option.bind_some, bind_apply, char_cons, Option.bind_some, bind_apply,
    key_pathText nonempty short]
  rfl

/-- The header of a table reads back. -/
theorem statement_table {path : List String} (nonempty : path ≠ [])
    (short : path.length ≤ longestKey) (rest : List Char) :
    statement (("[" ++ Section.pathText path ++ "]").toList ++ '\n' :: rest) =
      some (some (.table path), rest) := by
  have written : ("[" ++ Section.pathText path ++ "]").toList ++ '\n' :: rest =
      '[' :: ((Section.pathText path).toList ++ ']' :: '\n' :: rest) := by
    simp
  -- A single bracket stands in front of the key.
  have noElement : char '[' ((Section.pathText path).toList ++ ']' :: '\n' :: rest) = none := by
    cases path with
    | nil => exact absurd rfl nonempty
    | cons key path =>
      obtain ⟨first, more, text, begins⟩ := keyText_eq_cons key
      have noBracket : first ≠ '[' := by
        rcases begins with rfl | bare
        · decide
        · exact ne_of_isBare bare (by decide)
      rw [pathText_cons, text]
      exact char_of_ne noBracket _
  rw [written, statement_of_begins (.inl rfl), orElse_apply, orElse_apply, bind_apply, bind_apply,
    char_cons, Option.bind_some, Option.bind_some, bind_apply, bind_apply, noElement,
    key_pathText nonempty short]
  rfl

/-- A written plain value begins with no blank. -/
theorem inline_noBlank {value : Value} (plain : value.Plain) :
    ∃ first more, value.inline.toList = first :: more ∧
      (first = ' ' || first = '\t') = false := by
  -- A scalar begins with a character of its own, and an array with a bracket.
  rcases plain.cases with scalar | ⟨items, rfl, -⟩
  · obtain ⟨first, more, written, opened⟩ := Value.inline_eq_cons scalar
    have noSpace : first ≠ ' ' := by rintro rfl; cases opened
    have noTab : first ≠ '\t' := by rintro rfl; cases opened
    exact ⟨first, more, written, by simp [noSpace, noTab]⟩
  · have opened : ∃ more, (Value.bracketed (Value.inlineItems items)).toList = '[' :: more := by
      unfold Value.bracketed
      split <;> exact ⟨_, by simp; rfl⟩
    obtain ⟨more, written⟩ := opened
    exact ⟨'[', more, written, by decide⟩

/-- A plain value is taken with the blank in front of it. -/
theorem padded_inline {value : Value} (plain : value.Plain) (rest : List Char) :
    padded (Reader.value deepestNesting) (' ' :: (value.inline.toList ++ '\n' :: rest)) =
      some (value, '\n' :: rest) := by
  -- The blank in front is the one that is written, and none follows the value.
  have front : blanks (' ' :: (value.inline.toList ++ '\n' :: rest)) =
      some ((), value.inline.toList ++ '\n' :: rest) := by
    obtain ⟨first, more, written, noBlank⟩ := inline_noBlank plain
    rw [written]
    exact blanks_append (.inr rfl) noBlank _
  have back : blanks ('\n' :: rest) = some ((), '\n' :: rest) :=
    blanks_append (.inl rfl) (by decide) rest
  rw [padded, bind_apply, front, Option.bind_some, bind_apply, deepestNesting,
    value_inline plain 78 rest, Option.bind_some, bind_apply, back]
  rfl

/-- A value under its key reads back. -/
theorem statement_assign (name : String) {value : Value} (plain : value.Plain) (rest : List Char) :
    statement ((Value.keyText name ++ " = " ++ value.inline).toList ++ '\n' :: rest) =
      some (some (.assign ⟨[name], value⟩), rest) := by
  have written : (Value.keyText name ++ " = " ++ value.inline).toList ++ '\n' :: rest =
      (Value.keyText name).toList ++
        ([' '] ++ '=' :: ' ' :: (value.inline.toList ++ '\n' :: rest)) := by
    simp
  -- Key, sign and value are taken one after the other.
  have taken : assignment (Reader.value deepestNesting) ((Value.keyText name).toList ++
      ([' '] ++ '=' :: ' ' :: (value.inline.toList ++ '\n' :: rest))) =
      some (⟨[name], value⟩, '\n' :: rest) := by
    rw [assignment, bind_apply, key_keyText, Option.bind_some, bind_apply, char_cons,
      Option.bind_some, bind_apply, padded_inline plain]
    rfl
  -- A key begins with no bracket, so the line is no header.
  obtain ⟨first, more, text, begins⟩ := keyText_eq_cons name
  have noBracket : first ≠ '[' := by
    rcases begins with rfl | bare
    · decide
    · exact ne_of_isBare bare (by decide)
  rw [written]
  rw [text, List.cons_append] at taken ⊢
  rw [statement_of_begins (.inr begins), orElse_apply, orElse_apply, bind_apply, bind_apply,
    bind_apply, char_of_ne noBracket, taken]
  rfl

/-- The mark of the encoding begins no statement. -/
theorem statement_byteOrderMark (rest : List Char) : statement ('\uFEFF' :: rest) = none := rfl

end Reader

end NetworkLayer.Toml
