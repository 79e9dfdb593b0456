import NetworkLayer.Proofs.Toml.Number
import NetworkLayer.Proofs.Toml.Quoted
import NetworkLayer.Toml.Layout

/-!
Values in place: texts, integers and booleans, and arrays of them. Main statement: such a value
reads back in front of the end of its line.
-/

namespace NetworkLayer.Toml

namespace Value

/-- A text, a boolean or an integer that is neither negative nor too great for a document. -/
def Scalar : Value → Prop
  | text _ => True
  | boolean _ => True
  | integer number => 0 ≤ number ∧ number < 0x8000000000000000
  | _ => False

/-- A value that takes no section: a scalar, or an array of scalars. -/
def Plain : Value → Prop
  | array items => ∀ item ∈ items, item.Scalar
  | value => value.Scalar

/-- A plain value is a scalar or an array of scalars. -/
theorem Plain.cases {value : Value} (plain : value.Plain) :
    value.Scalar ∨ ∃ items, value = .array items ∧ ∀ item ∈ items, item.Scalar := by
  cases value with
  | array items => exact .inr ⟨items, rfl, plain⟩
  | text _ | integer _ | boolean _ | float _ | dateTime _ | table _ => exact .inl plain

/-- The items of an array are written one by one. -/
theorem inlineItems_eq (items : List Value) : inlineItems items = items.map inline := by
  induction items with
  | nil => rfl
  | cons item rest ih => rw [inlineItems, List.map_cons, ih]

/-- Whether a character may begin a scalar. -/
def opens (c : Char) : Bool :=
  c = '"' || c = '\'' || c = 't' || c = 'f' || (Text.digit? 10 c).isSome

/-- An integer that is not negative is written with its digits alone. -/
theorem integerText_toList {number : Int} (positive : 0 ≤ number) :
    (integerText number).toList = Nat.toDigits 10 number.toNat := by
  have noSign : ¬ number < 0 := Int.not_lt.mpr positive
  have absolute : number.natAbs = number.toNat := by omega
  rw [integerText, if_neg noSign, absolute, Text.decimal]
  simp

/-- A written scalar begins with a quote, a letter or a digit. -/
theorem inline_eq_cons {value : Value} (scalar : value.Scalar) :
    ∃ first more, value.inline.toList = first :: more ∧ opens first := by
  -- Each kind of scalar has its first character: the quote, a digit, or a letter of the two words.
  cases value with
  | text content =>
    obtain ⟨more, written⟩ :=
      (Quoting.choose content.toList).quote_eq_cons content.toList
    refine ⟨_, more, by rw [inline, quoted, String.toList_ofList, written], ?_⟩
    unfold Quoting.mark
    split <;> decide
  | integer number =>
    obtain ⟨first, more, written, digit⟩ := Number.numeral_eq_cons number.toNat
    refine ⟨first, more, by rw [inline, integerText_toList scalar.1, written], ?_⟩
    simp [opens, digit]
  | boolean flag => cases flag <;> exact ⟨_, _, rfl, rfl⟩
  | float _ | dateTime _ | array _ | table _ => cases scalar

end Value

namespace Reader

open Value

/-- A word is taken as it stands. -/
theorem word_append (expected rest : List Char) :
    word expected (expected ++ rest) = some ((), rest) := by
  induction expected with
  | nil => rfl
  | cons c expected ih =>
    change (char c >>= fun _ => word expected) (c :: (expected ++ rest)) = some ((), rest)
    rw [bind_apply, char_cons, Option.bind_some, ih]

/-- A scalar reads back. -/
theorem scalar_inline {value : Value} (scalar : value.Scalar) {stop : Char}
    (delimits : Delimits stop) (rest : List Char) :
    Reader.scalar (value.inline.toList ++ stop :: rest) = some (value, stop :: rest) := by
  -- The readers are tried one after the other, and the first character tells them apart.
  cases value with
  | text content =>
    have noDouble : (stop :: rest).head? ≠ some '"' := by
      rcases delimits with rfl | rfl | rfl <;> simp
    have noSingle : (stop :: rest).head? ≠ some '\'' := by
      rcases delimits with rfl | rfl | rfl <;> simp
    rw [Reader.scalar, orElse_apply, bind_apply, Value.inline, quoted?_quoted content noDouble noSingle,
      Option.bind_some, String.ofList_toList]
    rfl
  | integer number =>
    obtain ⟨positive, small⟩ := scalar
    have fits : number.toNat < 0x8000000000000000 := by omega
    obtain ⟨first, more, written, digit⟩ := Number.numeral_eq_cons number.toNat
    have noDouble : first ≠ '"' := by rintro rfl; cases digit
    have noSingle : first ≠ '\'' := by rintro rfl; cases digit
    have noTrue : first ≠ 't' := by rintro rfl; cases digit
    -- A digit is no quote and begins neither word.
    have noFalse : first ≠ 'f' := by rintro rfl; cases digit
    have read : Number.value (Nat.toDigits 10 number.toNat ++ stop :: rest) =
        some (.integer number.toNat, stop :: rest) := Number.value_numeral fits delimits
    rw [written] at read
    have notTrue : word "true".toList (first :: (more ++ stop :: rest)) = none :=
      word_of_ne noTrue ..
    have notFalse : word "false".toList (first :: (more ++ stop :: rest)) = none :=
      word_of_ne noFalse ..
    rw [Value.inline, integerText_toList positive, written, Reader.scalar, orElse_apply,
      orElse_apply, orElse_apply, bind_apply, bind_apply, bind_apply, List.cons_append,
      quoted?_of_ne noDouble noSingle, notTrue, notFalse]
    refine read.trans ?_
    rw [Int.toNat_of_nonneg positive]
  | boolean flag =>
    cases flag with
    | false =>
      have notTrue : word "true".toList ("false".toList ++ stop :: rest) = none :=
        word_of_ne (by decide) ..
      rw [Value.inline, Reader.scalar, orElse_apply, orElse_apply, orElse_apply, bind_apply,
        bind_apply, bind_apply]
      simp only [Bool.false_eq_true, if_false, notTrue, word_append]
      rfl
    | true =>
      rw [Value.inline, Reader.scalar, orElse_apply, orElse_apply, orElse_apply, bind_apply,
        bind_apply, bind_apply]
      simp only [if_true, word_append]
      rfl
  | float _ | dateTime _ | array _ | table _ => cases scalar

/-- What begins with neither a bracket nor a brace is read as a scalar. -/
theorem value_of_ne {c : Char} (noBracket : c ≠ '[') (noBrace : c ≠ '{') (depth : Nat)
    (rest : List Char) : Reader.value depth (c :: rest) = Reader.scalar (c :: rest) := by
  -- Without depth only scalars are read anyway.
  cases depth with
  | zero => rfl
  | succ depth =>
    rw [Reader.value, orElse_apply, orElse_apply, bind_apply, bind_apply, char_of_ne noBracket,
      char_of_ne noBrace]
    rfl

/-- A scalar reads back as a value, whatever the nesting. -/
theorem value_inline_scalar {value : Value} (scalar : value.Scalar) {stop : Char}
    (delimits : Delimits stop) (depth : Nat) (rest : List Char) :
    Reader.value depth (value.inline.toList ++ stop :: rest) = some (value, stop :: rest) := by
  have read := scalar_inline scalar delimits rest
  obtain ⟨first, more, written, opened⟩ := inline_eq_cons scalar
  -- A scalar begins with a quote, a digit or a letter.
  have noBracket : first ≠ '[' := by rintro rfl; cases opened
  have noBrace : first ≠ '{' := by rintro rfl; cases opened
  rw [written] at read ⊢
  exact (value_of_ne noBracket noBrace depth _).trans read

/-- A closing bracket is no value. -/
theorem value_bracket (depth : Nat) (rest : List Char) :
    Reader.value depth (']' :: rest) = none := by
  rw [value_of_ne (by decide) (by decide), Reader.scalar, orElse_apply, orElse_apply, orElse_apply,
    Number.value_bracket]
  rfl

/-- A character that no gap passes ends it. -/
theorem gap_of_ne {c : Char} (noBlank : c ≠ ' ' ∧ c ≠ '\t') (noLine : c ≠ '\n' ∧ c ≠ '\r')
    (noComment : c ≠ '#') (rest : List Char) : gap (c :: rest) = some ((), c :: rest) := by
  have stays : skipGap false (c :: rest) = some (c :: rest) := by
    rw [skipGap]
    · simp [noBlank, noComment]
    · exact noLine.1
    · exact fun _ same _ => noLine.2 same
  rw [gap, stays]
  rfl

/-- Blanks and line ends are passed. -/
theorem gap_append {space : List Char} (blank : ∀ c ∈ space, c = ' ' ∨ c = '\n')
    (rest : List Char) : gap (space ++ rest) = gap rest := by
  induction space with
  | nil => rfl
  | cons c space ih =>
    have tail := ih fun c listed => blank c (List.mem_cons_of_mem _ listed)
    rcases blank c List.mem_cons_self with rfl | rfl <;> exact tail

/-- An item of an array, with the gaps around it. -/
def entry (item : Reader Value) : Reader Value := do
  gap
  let value ← item
  gap
  return value

/-- The items of an array, with the gaps around each of them as its own. -/
theorem items_eq (item : Reader Value) : Reader.items item = (do
    let values ← (do
      let values ← separated ',' (entry item)
      let _ ← optional (char ',')
      return values) <|> return []
    gap
    char ']'
    return values) := rfl

/-- A scalar is taken up to the comma or the bracket behind it. -/
theorem entry_inline {value : Value} (scalar : value.Scalar) {space : List Char}
    (blank : ∀ c ∈ space, c = ' ' ∨ c = '\n') {stop : Char} (ends : stop = ',' ∨ stop = ']')
    (depth : Nat) (rest : List Char) :
    entry (Reader.value depth) (space ++ (value.inline.toList ++ stop :: rest)) =
      some (value, stop :: rest) := by
  -- The white space in front goes up to the value, and none stands behind it.
  have read := value_inline_scalar scalar (.inr ends) depth rest
  have front : gap (space ++ (value.inline.toList ++ stop :: rest)) =
      some ((), value.inline.toList ++ stop :: rest) := by
    obtain ⟨first, more, written, opened⟩ := inline_eq_cons scalar
    rw [gap_append blank, written]
    refine gap_of_ne ⟨?_, ?_⟩ ⟨?_, ?_⟩ ?_ _ <;> rintro rfl <;> cases opened
  have back : gap (stop :: rest) = some ((), stop :: rest) := by
    rcases ends with rfl | rfl <;> rfl
  rw [entry, bind_apply, front, Option.bind_some, bind_apply, read, Option.bind_some, bind_apply,
    back]
  rfl

/-- No item is taken where only the bracket is left. -/
theorem entry_bracket {space : List Char} (blank : ∀ c ∈ space, c = ' ' ∨ c = '\n') (depth : Nat)
    (rest : List Char) : entry (Reader.value depth) (space ++ ']' :: rest) = none := by
  have front : gap (space ++ ']' :: rest) = some ((), ']' :: rest) := gap_append blank _
  rw [entry, bind_apply, front, Option.bind_some, bind_apply, value_bracket]
  rfl

/-- The lines of the items behind the first one of an array, up to the bracket. -/
def itemLines (items : List Value) : List Char :=
  ",\n".toList ++ items.flatMap fun item => "    ".toList ++ item.inline.toList ++ ",\n".toList

/-- The items behind the first one are taken from their lines. -/
theorem more_itemLines {items : List Value} (scalars : ∀ item ∈ items, item.Scalar) {count : Nat}
    (enough : items.length ≤ count) (depth : Nat) (rest : List Char) :
    more ',' (entry (Reader.value depth)) count (itemLines items ++ ']' :: rest) =
      some (items, ",\n]".toList ++ rest) := by
  -- On the items; the comma behind the last one is given back, since only the bracket follows.
  induction items generalizing count with
  | nil =>
    -- Without lines left the end is met with a comma that nothing follows.
    cases count with
    | zero => rfl
    | succ count =>
      have comma : char ',' (itemLines [] ++ ']' :: rest) =
          some ((), "\n".toList ++ ']' :: rest) := rfl
      rw [more, orElse_apply, bind_apply, comma, Option.bind_some, bind_apply,
        entry_bracket (by simp)]
      rfl
  -- The comma of this item is followed by the line of the next one.
  | cons item items ih =>
    obtain ⟨scalar, others⟩ := List.forall_mem_cons.mp scalars
    cases count with
    | zero => cases enough
    -- One more item is allowed, and its line is taken first.
    | succ count =>
      have behind := ih others (Nat.le_of_succ_le_succ enough)
      obtain ⟨after, written⟩ : ∃ after, itemLines items ++ ']' :: rest = ',' :: after := ⟨_, rfl⟩
      have comma : char ',' (itemLines (item :: items) ++ ']' :: rest) =
          some ((), "\n    ".toList ++ (item.inline.toList ++ ',' :: after)) := by
        rw [← written, ← char_cons ',']
        simp [itemLines]
      have taken := entry_inline scalar (by simp : ∀ c ∈ "\n    ".toList, c = ' ' ∨ c = '\n')
        (.inl rfl) depth after
      rw [more, orElse_apply, bind_apply, comma, Option.bind_some, bind_apply, taken,
        Option.bind_some, bind_apply, ← written, behind]
      rfl

/-- The items of an array are the first one and those behind it. -/
theorem separated_of_more {α : Type} {mark : Char} {item : Reader α} {text behind after : List Char}
    {first : α} {others : List α} (taken : item text = some (first, behind))
    (rest : more mark item behind.length behind = some (others, after)) :
    separated mark item text = some (first :: others, after) := by
  have length : (get : Reader (List Char)) behind = some (behind, behind) := rfl
  rw [separated, bind_apply, taken, Option.bind_some, bind_apply, length, Option.bind_some,
    bind_apply, rest]
  rfl

/-- The bracket ends the items of an array, with or without a comma in front of it. -/
theorem items_of_separated {item : Reader Value} {text after rest : List Char}
    {values : List Value} (taken : separated ',' (entry item) text = some (values, after))
    (closed : after = ']' :: rest ∨ after = ",\n]".toList ++ rest) :
    Reader.items item text = some (values, rest) := by
  rw [items_eq, bind_apply, orElse_apply, bind_apply, taken]
  rcases closed with rfl | rfl <;> rfl

/-- Behind the last item there are no more. -/
theorem more_of_ne {α : Type} {mark c : Char} (other : c ≠ mark) (item : Reader α) (count : Nat)
    (rest : List Char) : more mark item count (c :: rest) = some ([], c :: rest) := by
  cases count with
  | zero => rfl
  | succ count =>
    rw [more, orElse_apply, bind_apply, char_of_ne other]
    rfl

/-- There are no more items than characters in their lines. -/
theorem length_le_itemLines (items : List Value) : items.length ≤ (itemLines items).length := by
  -- Induction on the items, each of which brings its spaces at least.
  induction items with
  | nil => exact Nat.zero_le _
  | cons item items ih =>
    simp only [itemLines, List.flatMap_cons, List.length_append, List.length_cons] at ih ⊢
    have spaces : "    ".toList.length = 4 := rfl
    omega

/-- An array of scalars reads back as a value. -/
theorem value_inline_array {items : List Value} (scalars : ∀ item ∈ items, item.Scalar)
    (depth : Nat) (rest : List Char) :
    Reader.value (depth + 1) ((Value.array items).inline.toList ++ rest) =
      some (.array items, rest) := by
  -- In the brackets only the items have to be read.
  have inside {text : List Char}
      (taken : Reader.items (Reader.value depth) text = some (items, rest)) :
      Reader.value (depth + 1) ('[' :: text) = some (.array items, rest) := by
    rw [Reader.value, orElse_apply, bind_apply, char_cons, Option.bind_some, bind_apply, taken]
    rfl
  rw [Value.inline, inlineItems_eq]
  -- No item, one on the line of the brackets, and several on lines of their own are written in different ways.
  match items, scalars with
  | [], _ =>
    have noItem : entry (Reader.value depth) (']' :: rest) = none :=
      entry_bracket (by simp : ∀ c ∈ [], c = ' ' ∨ c = '\n') depth rest
    have empty : Reader.items (Reader.value depth) (']' :: rest) = some ([], rest) := by
      rw [items_eq, bind_apply, orElse_apply, bind_apply, separated, bind_apply, noItem]
      rfl
    exact inside empty
  | [item], scalars =>
    have scalar : item.Scalar := scalars item List.mem_cons_self
    have taken := entry_inline scalar (by simp : ∀ c ∈ [], c = ' ' ∨ c = '\n') (.inr rfl) depth rest
    have written : (bracketed ([item].map Value.inline)).toList ++ rest =
        '[' :: (item.inline.toList ++ ']' :: rest) := by
      simp [bracketed]
    rw [written]
    exact inside (items_of_separated (separated_of_more taken (more_of_ne (by decide) ..)) (.inl rfl))
  -- Behind the first item there are lines enough for the others.
  | item :: second :: items, scalars =>
    obtain ⟨scalar, others⟩ := List.forall_mem_cons.mp scalars
    obtain ⟨after, first⟩ : ∃ after, itemLines (second :: items) ++ ']' :: rest = ',' :: after :=
      ⟨_, rfl⟩
    have taken := entry_inline scalar (by simp : ∀ c ∈ "\n    ".toList, c = ' ' ∨ c = '\n')
      (.inl rfl) depth after
    have written : (bracketed ((item :: second :: items).map Value.inline)).toList ++ rest =
        '[' :: ("\n    ".toList ++ (item.inline.toList ++ ',' :: after)) := by
      rw [← first]
      simp [bracketed, itemLines, List.flatMap_map]
    rw [← first] at taken
    have enough : (second :: items).length ≤ (itemLines (second :: items) ++ ']' :: rest).length := by
      rw [List.length_append]
      exact Nat.le_trans (length_le_itemLines _) (Nat.le_add_right _ _)
    rw [written, ← first]
    exact inside (items_of_separated
      (separated_of_more taken (more_itemLines others enough depth rest)) (.inr rfl))

/-- A plain value reads back in front of its line end. -/
theorem value_inline {value : Value} (plain : value.Plain) (depth : Nat) (rest : List Char) :
    Reader.value (depth + 1) (value.inline.toList ++ '\n' :: rest) =
      some (value, '\n' :: rest) := by
  rcases plain.cases with scalar | ⟨items, rfl, scalars⟩
  · exact value_inline_scalar scalar (.inl rfl) (depth + 1) rest
  · exact value_inline_array scalars depth _

end Reader

end NetworkLayer.Toml
