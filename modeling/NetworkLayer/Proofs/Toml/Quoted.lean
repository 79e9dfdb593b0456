import NetworkLayer.Toml.Quoted

/-!
Quoted texts read back. Main statement: a quoted text in front of anything but a quote is read as
the text, whichever way of quoting the writer picked.
-/

namespace NetworkLayer.Toml.Quoting

/-- Puts characters in front of a text that has been read. -/
def prepend (front : List Char) (result : List Char × List Char) : List Char × List Char :=
  (front ++ result.1, result.2)

@[simp] theorem prepend_prepend (first second : List Char) (result : List Char × List Char) :
    prepend first (prepend second result) = prepend (first ++ second) result := by
  simp [prepend]

/-- A character that is taken adds its text to what follows. -/
theorem read_of_go {quoting : Quoting} {state next : QuotedState} {c : Char} {text : List Char}
    (taken : quoting.step state c = .go text next) (rest : List Char) :
    quoting.read state (c :: rest) = (quoting.read next rest).map (prepend text) := by
  cases state <;> simp only [read, taken] <;> rfl

/-- A character that adds nothing only leads to the next state. -/
theorem read_of_pass {quoting : Quoting} {state next : QuotedState} {c : Char}
    (taken : quoting.step state c = .go [] next) (rest : List Char) :
    quoting.read state (c :: rest) = quoting.read next rest := by
  rw [read_of_go taken]
  exact Option.map_id'

/-- The state behind so many quotes in a row that may all be text. -/
def behind : Nat → QuotedState
  | 0 => .plain
  | run => .quotes run

/-- So many quotes in a row at most are text: none on a single line, two on many. -/
def longest (quoting : Quoting) : Nat := if quoting.multiline then 2 else 0

/-- Behind quotes that may be text, a character that is no quote makes them text. -/
theorem step_behind {quoting : Quoting} {run : Nat} (few : run ≤ quoting.longest) {c : Char}
    (other : c ≠ quoting.mark) :
    quoting.step (behind run) c = quoting.stepPlain (List.replicate run quoting.mark) c := by
  -- Without quotes in front the state is the plain one.
  cases run with
  | zero => rfl
  | succ run =>
    have below : run + 1 < 3 := by
      unfold longest at few
      split at few <;> omega
    simp only [behind, step, if_neg other, if_pos below]

/-- A quote that may be text is one more behind the reader. -/
theorem step_mark {quoting : Quoting} {run : Nat} (few : run < quoting.longest) :
    quoting.step (behind run) quoting.mark = .go [] (behind (run + 1)) := by
  -- On a single line no quote may be text, so there are many lines.
  have many : quoting.multiline = true := by
    cases multiline : quoting.multiline
    · simp [longest, multiline] at few
    · rfl
  have below : run < 2 := by simpa [longest, many] using few
  -- The first quote is met in plain text, and the second behind one.
  cases run with
  | zero => simp [behind, step, stepPlain, many]
  | succ run =>
    have small : run + 1 < 4 := by omega
    simp [behind, step, small]

/-- Three or four quotes that no further one follows end the text; the first may belong to it. -/
theorem read_quotes {quoting : Quoting} {count : Nat} (enough : 3 ≤ count) {rest : List Char}
    (other : rest.head? ≠ some quoting.mark) :
    quoting.read (.quotes count) rest = some (List.replicate (count - 3) quoting.mark, rest) := by
  -- Either the text is over, or another character follows.
  cases rest with
  | nil => simp [read, enough]
  | cons c rest =>
    have differs : c ≠ quoting.mark := fun same => other (by rw [same]; rfl)
    have past : ¬ count < 3 := by omega
    simp [read, step, differs, past]

/-- The delimiter behind a text ends it, and the quotes in front of it are text. -/
theorem read_delimiter {quoting : Quoting} {run : Nat} (few : run ≤ quoting.longest)
    {rest : List Char} (other : rest.head? ≠ some quoting.mark) :
    quoting.read (behind run) (quoting.delimiter ++ rest) =
      some (List.replicate run quoting.mark, rest) := by
  -- On one line there is no quote before the delimiter. With many lines there may be up to two.
  cases many : quoting.multiline with
  | false =>
    have none : run = 0 := by simpa [longest, many] using few
    subst none
    simp [delimiter, many, behind, read, step, stepPlain]
  | true =>
    have fewer : run ≤ 2 := by simpa [longest, many] using few
    have ends : quoting.delimiter ++ rest = quoting.mark :: quoting.mark :: quoting.mark :: rest := by
      simp [delimiter, many, List.replicate]
    rw [ends]
    -- Each number of quotes in front is a state of its own.
    match run, fewer with
    | 0, _ =>
      have three := read_quotes (by decide : 3 ≤ 3) other
      simp [behind, read, step, stepPlain, many, three]
    | 1, _ =>
      have four := read_quotes (by decide : 3 ≤ 4) other
      simp [behind, read, step, four]
    | 2, _ =>
      -- The fifth quote in a row is the last of the delimiter for sure.
      simp [behind, read, step, List.replicate]

/-- What stands behind a backslash is read as a character. -/
def Escapes (quoting : Quoting) (code : List Char) (c : Char) : Prop :=
  ∀ rest, quoting.read .escape (code ++ rest) = (quoting.read .plain rest).map (prepend [c])

/-- A character with a name of its own is escaped by that name. -/
theorem escapes_named {quoting : Quoting} {name c : Char} (named : named? name = some c) :
    quoting.Escapes [name] c := by
  intro rest
  exact read_of_go (by simp [step, stepEscape, named]) rest

/-- A digit of a code that is not the last one is added to the code. -/
theorem read_code {quoting : Quoting} {left value digit : Nat} {c : Char} (more : 1 < left)
    (spelled : Text.digit? 16 c = some digit) (rest : List Char) :
    quoting.read (.code left value) (c :: rest) =
      quoting.read (.code (left - 1) (value * 16 + digit)) rest := by
  have taken : quoting.step (.code left value) c =
      .go [] (.code (left - 1) (value * 16 + digit)) := by
    simp only [step, stepCode, spelled, if_neg (Nat.not_le.mpr more)]
  exact read_of_pass taken rest

/-- The digits of a control character. -/
def controlDigits (number : Nat) : List Char := (Text.hex 4 number).toList.map Char.toUpper

/-- The digits of a control character spell its number. -/
theorem digits_control {number : Nat} (control : number < 0x20 ∨ number = 0x7F) :
    (controlDigits number).map (Text.digit? 16) =
      [some 0, some 0, some (number / 16), some (number % 16)] := by
  have all : ∀ number < 128, number < 0x20 ∨ number = 0x7F →
      (controlDigits number).map (Text.digit? 16) =
        [some 0, some 0, some (number / 16), some (number % 16)] := by
    decide +kernel
  exact all number (by omega) control

/-- A control character is escaped by its code. -/
theorem escapes_control {quoting : Quoting} {c : Char}
    (control : c.toNat < 0x20 ∨ c.toNat = 0x7F) :
    quoting.Escapes ('u' :: controlDigits c.toNat) c := by
  intro rest
  -- The code has four digits, of which the first two are zero.
  obtain ⟨first, tail, digits, zero, tailDigits⟩ := List.map_eq_cons_iff.mp (digits_control control)
  obtain ⟨second, tail, rfl, zero', tailDigits⟩ := List.map_eq_cons_iff.mp tailDigits
  obtain ⟨third, tail, rfl, high, tailDigits⟩ := List.map_eq_cons_iff.mp tailDigits
  obtain ⟨fourth, tail, rfl, low, nothing⟩ := List.map_eq_cons_iff.mp tailDigits
  have unicode : quoting.step .escape 'u' = .go [] (.code 4 0) := rfl
  have whole : c.toNat / 16 * 16 + c.toNat % 16 = c.toNat := by omega
  have valid : c.toNat.isValidChar := c.valid
  -- With the last digit the code is whole, and it is that of the character.
  have last : quoting.step (.code 1 (c.toNat / 16)) fourth = .go [c] .plain := by
    simp only [step, stepCode, low, whole, ofCode?, Nat.le_refl, if_pos, if_pos valid,
      Char.ofNat_toNat]
    rfl
  rw [digits, List.map_eq_nil_iff.mp nothing, List.cons_append, read_of_pass unicode]
  simp only [List.cons_append, List.nil_append]
  rw [read_code (by decide) zero, read_code (by decide) zero', read_code (by decide) high]
  simp only [Nat.zero_mul, Nat.zero_add]
  exact read_of_go last rest

/-- An escape is a backslash in front of what is read as the character. -/
theorem escapes_of_escape? {multiline : Bool} {c : Char} {spelled : List Char}
    (escaped : escape? multiline c = some spelled) :
    ∃ code, spelled = '\\' :: code ∧ Escapes ⟨true, multiline⟩ code c := by
  have byName {name original : Char} (same : c = original) (named : named? name = some original)
      (written : some ['\\', name] = some spelled) :
      ∃ code, spelled = '\\' :: code ∧ Escapes ⟨true, multiline⟩ code c :=
    ⟨[name], (Option.some.inj written).symm, escapes_named (same ▸ named)⟩
  unfold escape? at escaped
  -- The characters with a name of their own come first, a line end only where it needs one.
  split at escaped
  · exact byName ‹_› rfl escaped
  split at escaped
  · exact byName ‹_› rfl escaped
  split at escaped
  · exact byName ‹_› rfl escaped
  split at escaped
  · split at escaped
    · cases escaped
    · exact byName ‹_› rfl escaped
  split at escaped
  · exact byName ‹_› rfl escaped
  split at escaped
  · exact byName ‹_› rfl escaped
  split at escaped
  · rename_i control
    refine ⟨'u' :: controlDigits c.toNat, ?_, escapes_control (by simpa using control)⟩
    simpa [controlDigits] using escaped.symm
  · cases escaped

/-- Whether a character may stand for itself between the quotes. -/
def Stands (quoting : Quoting) (c : Char) : Prop :=
  isPlain c ∨ c = '\n' ∧ quoting.multiline = true

/-- A character without an escape may stand for itself, and it is no backslash. -/
theorem stands_of_escape?_none {multiline : Bool} {c : Char} (bare : escape? multiline c = none) :
    Stands ⟨true, multiline⟩ c ∧ c ≠ '\\' := by
  unfold escape? at bare
  grind [Stands, isPlain]

/-- A character that stands for itself is taken as it is. -/
theorem stepPlain_of_stands {quoting : Quoting} {c : Char} (stands : quoting.Stands c)
    (other : c ≠ quoting.mark) (literal : c ≠ '\\' ∨ quoting.escapes = false)
    (before : List Char) : quoting.stepPlain before c = .go (before ++ [c]) .plain := by
  have noEscape : (c = '\\' && quoting.escapes) = false := by
    rcases literal with literal | literal <;> simp [literal]
  -- It is no quote, no backslash that escapes and, on one line, no line end.
  unfold stepPlain
  rw [if_neg other, noEscape]
  rcases stands with plain | ⟨rfl, many⟩
  · have noLine : c ≠ '\n' := by rintro rfl; cases plain
    have noReturn : c ≠ '\r' := by rintro rfl; cases plain
    simp [noLine, noReturn, plain]
  · simp [many]

/-- An escape behind quotes makes them text. -/
theorem read_escape {multiline : Bool} {run : Nat} (few : run ≤ longest ⟨true, multiline⟩)
    {code : List Char} {c : Char} (escapes : Escapes ⟨true, multiline⟩ code c) (rest : List Char) :
    read ⟨true, multiline⟩ (behind run) ('\\' :: (code ++ rest)) =
      (read ⟨true, multiline⟩ .plain rest).map (prepend (List.replicate run '"' ++ [c])) := by
  have taken : step ⟨true, multiline⟩ (behind run) '\\' =
      .go (List.replicate run '"') .escape :=
    step_behind few (by simp [mark])
  -- The quotes are text, and the character follows them.
  rw [read_of_go taken, escapes rest, Option.map_map]
  congr 1
  funext result
  simp

/-- A character that stands for itself behind quotes makes them text. -/
theorem read_stands {quoting : Quoting} {run : Nat} (few : run ≤ quoting.longest) {c : Char}
    (stands : quoting.Stands c) (other : c ≠ quoting.mark)
    (literal : c ≠ '\\' ∨ quoting.escapes = false) (rest : List Char) :
    quoting.read (behind run) (c :: rest) =
      (quoting.read .plain rest).map (prepend (List.replicate run quoting.mark ++ [c])) := by
  have taken := step_behind few other
  rw [stepPlain_of_stands stands other literal] at taken
  exact read_of_go taken rest

/-- Text with escapes reads back, with the quotes in front that belong to it. -/
theorem read_escaped {multiline : Bool} {rest : List Char} (other : rest.head? ≠ some '"')
    (text : List Char) {run : Nat} (few : run ≤ longest ⟨true, multiline⟩) :
    read ⟨true, multiline⟩ (behind run)
        (escaped multiline run text ++ (delimiter ⟨true, multiline⟩ ++ rest)) =
      some (List.replicate run '"' ++ text, rest) := by
  -- On the characters; the quotes just in front, which may still be text, are the state.
  induction text generalizing run with
  | nil => simpa [escaped, mark] using read_delimiter few other
  | cons c text ih =>
    have fresh : read ⟨true, multiline⟩ .plain
        (escaped multiline 0 text ++ (delimiter ⟨true, multiline⟩ ++ rest)) = some (text, rest) := by
      simpa [behind] using ih (Nat.zero_le (longest ⟨true, multiline⟩))
    -- A quote is text if two of them do not stand in front of it yet, and is escaped else.
    by_cases quote : c = '"'
    · by_cases again : multiline && run < 2
      · have more : run < longest ⟨true, multiline⟩ := by
          simp only [Bool.and_eq_true, decide_eq_true_eq] at again
          simpa [longest, again.1] using again.2
        have counted : step ⟨true, multiline⟩ (behind run) '"' = .go [] (behind (run + 1)) :=
          step_mark more
        rw [escaped, if_pos quote, if_pos again, List.cons_append, read_of_pass counted, ih more,
          List.replicate_succ', quote]
        simp
      · rw [escaped, if_pos quote, if_neg again]
        refine (read_escape few (escapes_named rfl) _).trans ?_
        simp [fresh, prepend, quote]
    · -- Any other character ends the quotes in front, and is written bare or escaped.
      rw [escaped, if_neg quote]
      cases bare : escape? multiline c with
      | none =>
        obtain ⟨stands, noEscape⟩ := stands_of_escape?_none bare
        refine (read_stands few stands quote (.inl noEscape) _).trans ?_
        simp [fresh, prepend, mark]
      | some spelled =>
        obtain ⟨code, rfl, escapes⟩ := escapes_of_escape? bare
        rw [Option.getD_some, List.cons_append, List.cons_append, List.append_assoc,
          read_escape few escapes, fresh]
        simp [prepend]

/-- The run of marks at the end of a text and the longest one, after one more character. -/
def lengthen (mark : Char) (runs : Nat × Nat) (c : Char) : Nat × Nat :=
  let run := if c = mark then runs.1 + 1 else 0
  (run, max run runs.2)

/-- The longest run is found character by character. -/
theorem longestRun_eq (mark : Char) (text : List Char) :
    longestRun mark text = (text.foldl (lengthen mark) (0, 0)).2 := rfl

/-- The longest run does not get shorter as the text goes on. -/
theorem le_foldl_lengthen (mark : Char) (text : List Char) (runs : Nat × Nat) :
    runs.2 ≤ (text.foldl (lengthen mark) runs).2 := by
  induction text generalizing runs with
  | nil => exact Nat.le_refl _
  | cons c text ih => exact Nat.le_trans (Nat.le_max_right _ _) (ih (lengthen mark runs c))

/-- Text without escapes reads back, with the quotes in front that belong to it. -/
theorem read_literal {quoting : Quoting} (literal : quoting.escapes = false) {rest : List Char}
    (other : rest.head? ≠ some quoting.mark) {text : List Char}
    (stands : ∀ c ∈ text, quoting.Stands c) {run most : Nat} (few : run ≤ quoting.longest)
    (sparse : (text.foldl (lengthen quoting.mark) (run, most)).2 ≤ quoting.longest) :
    quoting.read (behind run) (text ++ (quoting.delimiter ++ rest)) =
      some (List.replicate run quoting.mark ++ text, rest) := by
  -- Induction on the characters, with the quotes in front and the longest run so far.
  induction text generalizing run most with
  | nil => simpa using read_delimiter few other
  | cons c text ih =>
    have tail := fun member listed => stands member (List.mem_cons_of_mem c listed)
    -- A quote adds to the run, which stays within what the way of writing allows.
    by_cases quote : c = quoting.mark
    · have more : run + 1 ≤ quoting.longest := by
        have counted := Nat.le_trans (le_foldl_lengthen quoting.mark text _) sparse
        simp only [lengthen, if_pos quote] at counted
        omega
      simp only [List.foldl_cons, lengthen, if_pos quote] at sparse
      rw [List.cons_append, quote, read_of_pass (step_mark more), ih tail more sparse,
        List.replicate_succ']
      simp
    · -- Any other character ends the run.
      simp only [List.foldl_cons, lengthen, if_neg quote] at sparse
      have fresh : quoting.read .plain (text ++ (quoting.delimiter ++ rest)) = some (text, rest) := by
        simpa [behind] using ih tail (Nat.zero_le _) sparse
      rw [List.cons_append, read_stands few (stands c List.mem_cons_self) quote (.inr literal)]
      simp [fresh, prepend]

/-- Whether a way of quoting can write a text: any with escapes can, and one without them can if
every character stands for itself and the runs of quotes are short. -/
def Suits (quoting : Quoting) (text : List Char) : Prop :=
  quoting.escapes = false →
    (∀ c ∈ text, quoting.Stands c) ∧ longestRun quoting.mark text ≤ quoting.longest

/-- A character of a text without control characters stands for itself. -/
theorem stands_of_clean {text : List Char} {quoting : Quoting}
    (clean : (text.any fun c => c ≠ '\n' && !isPlain c) = false)
    (lines : text.contains '\n' = true → quoting.multiline = true) {c : Char} (listed : c ∈ text) :
    quoting.Stands c := by
  have plainUnlessLine := List.any_eq_false.mp clean c listed
  by_cases line : c = '\n'
  · exact .inr ⟨line, lines (List.contains_iff_mem.mpr (line ▸ listed))⟩
  · exact .inl (by simpa [line] using plainUnlessLine)

/-- The way that is picked can write the text. -/
theorem choose_suits (text : List Char) : (choose text).Suits text := by
  unfold choose
  dsimp only
  -- Only the ways without escapes ask for something, and each was picked for it.
  split
  · intro literal
    cases literal
  split
  · rename_i single
    intro _
    simp only [Bool.and_eq_true, Bool.not_eq_true', decide_eq_true_eq] at single
    obtain ⟨⟨clean, none⟩, oneLine⟩ := single
    refine ⟨fun c listed => stands_of_clean clean ?_ listed, Nat.le_of_eq none⟩
    intro lines
    rw [oneLine] at lines
    cases lines
  split
  · intro literal
    cases literal
  split
  · rename_i single
    intro _
    simp only [Bool.and_eq_true, Bool.not_eq_true', decide_eq_true_eq] at single
    obtain ⟨clean, few⟩ := single
    exact ⟨fun c listed => stands_of_clean clean (fun _ => rfl) listed, few⟩
  · intro literal
    cases literal

/-- A written text begins with a quote. -/
theorem quote_eq_cons (quoting : Quoting) (text : List Char) :
    ∃ more, quoting.quote text = quoting.mark :: more := by
  rcases quoting with ⟨escapes, _ | _⟩ <;> exact ⟨_, rfl⟩

/-- What stands between the quotes. -/
def body (quoting : Quoting) (text : List Char) : List Char :=
  if quoting.escapes then escaped quoting.multiline 0 text else text

/-- What stands between the quotes is read as the text. -/
theorem read_body {quoting : Quoting} {text rest : List Char} (suits : quoting.Suits text)
    (other : rest.head? ≠ some quoting.mark) :
    quoting.read .plain (quoting.body text ++ (quoting.delimiter ++ rest)) = some (text, rest) := by
  -- The two kinds of quoting have their own lemmas.
  rcases quoting with ⟨_ | _, multiline⟩
  · obtain ⟨stands, sparse⟩ := suits rfl
    rw [longestRun_eq] at sparse
    simpa [body, behind] using read_literal rfl other stands (Nat.zero_le _) sparse
  · have read := read_escaped other text (Nat.zero_le (longest ⟨true, multiline⟩))
    simpa [body, behind] using read

/-- What stands first between the quotes: a backslash, a quote of many lines, or a character of
the text that stands for itself. -/
theorem head?_body {quoting : Quoting} {text : List Char} (suits : quoting.Suits text) {c : Char}
    (first : (quoting.body text).head? = some c) :
    c = '\\' ∨ c = quoting.mark ∧ quoting.multiline = true ∨
      c ∈ text ∧ quoting.Stands c ∧ c ≠ quoting.mark := by
  -- An empty text writes nothing between the quotes.
  cases text with
  | nil => cases quoting; simp [body, escaped] at first
  | cons head text =>
    -- Without escapes the first character is that of the text. With them, it is written bare or as an escape.
    rcases quoting with ⟨_ | _, multiline⟩
    · obtain ⟨stands, sparse⟩ := suits rfl
      have same : head = c := by simpa [body] using first
      subst same
      by_cases quote : head = mark ⟨false, multiline⟩
      · -- A run of one quote is too long for a single line.
        have counted := le_foldl_lengthen (mark ⟨false, multiline⟩) text
          (lengthen (mark ⟨false, multiline⟩) (0, 0) head)
        rw [longestRun_eq, List.foldl_cons] at sparse
        refine .inr (.inl ⟨quote, ?_⟩)
        cases multiline with
        | true => rfl
        | false => simp [longest, lengthen, quote] at counted sparse; omega
      · exact .inr (.inr ⟨List.mem_cons_self, stands head List.mem_cons_self, quote⟩)
    · simp only [body, if_pos, escaped] at first
      split at first
      · split at first
        · rename_i again
          simp only [Bool.and_eq_true, decide_eq_true_eq] at again
          exact .inr (.inl ⟨by simpa [mark] using first.symm, again.1⟩)
        · exact .inl (by simpa using first.symm)
      · rename_i quote
        cases bare : escape? multiline head with
        | none =>
          have same : head = c := by simpa [bare] using first
          subst same
          exact .inr (.inr ⟨List.mem_cons_self, (stands_of_escape?_none bare).1, quote⟩)
        | some spelled =>
          obtain ⟨code, rfl, -⟩ := escapes_of_escape? bare
          exact .inl (by simpa [bare] using first.symm)

/-- A line end is not found where none begins. -/
theorem lineEnd?_eq_none {text : List Char}
    (first : ∀ c, text.head? = some c → c ≠ '\n' ∧ c ≠ '\r') : lineEnd? text = none := by
  unfold lineEnd?
  split
  · exact absurd rfl (first '\n' rfl).1
  · exact absurd rfl (first '\r' rfl).2
  · rfl

/-- The line end behind the opening quotes is passed, and only that one. -/
theorem lineEnd?_opening {quoting : Quoting} {text : List Char} (suits : quoting.Suits text)
    (rest : List Char) :
    let opened := (if text.contains '\n' then ['\n'] else []) ++ (quoting.body text ++
      (quoting.delimiter ++ rest))
    (lineEnd? opened).getD opened = quoting.body text ++ (quoting.delimiter ++ rest) := by
  intro opened
  -- Either the line end was put in, and is passed, or nothing that stands first is one.
  by_cases lines : text.contains '\n' = true
  · simp only [opened, if_pos lines]
    rfl
  · have none : lineEnd? (quoting.body text ++ (quoting.delimiter ++ rest)) = none := by
      apply lineEnd?_eq_none
      intro c first
      have markOther : quoting.mark ≠ '\n' ∧ quoting.mark ≠ '\r' := by
        unfold mark
        split <;> decide
      -- First stands the body, or the delimiter where the body is empty.
      cases empty : quoting.body text with
      | nil =>
        have same : c = quoting.mark := by
          rcases quoting with ⟨escapes, _ | _⟩ <;>
            simpa [empty, delimiter, List.replicate] using first.symm
        rw [same]
        exact markOther
      | cons head tail =>
        have same : head = c := by simpa [empty] using first
        subst same
        rcases head?_body suits (by rw [empty]; rfl) with rfl | ⟨rfl, -⟩ | ⟨listed, stands, -⟩
        · decide
        · exact markOther
        · have noLine : head ≠ '\n' := by
            rintro rfl
            exact lines (List.contains_iff_mem.mpr listed)
          refine ⟨noLine, ?_⟩
          rintro rfl
          rcases stands with plain | ⟨line, -⟩
          · cases plain
          · exact noLine line
    simp only [opened, if_neg lines, List.nil_append, none, Option.getD_none]

/-- A single quote in front is that of a text on one line. -/
theorem quoted?_of_single {c : Char} {text : List Char} (single : text.take 2 ≠ [c, c]) :
    quoted? (c :: text) = quotedLine? (c :: text) := by
  -- Three quotes in front would make the next two.
  unfold quoted?
  split
  · rename_i same
    cases same
    exact absurd rfl single
  · rename_i same
    cases same
    exact absurd rfl single
  · rfl

/-- On one line, two quotes do not stand behind the first one. -/
theorem take_body {quoting : Quoting} {text rest : List Char} (suits : quoting.Suits text)
    (single : quoting.multiline = false) (other : rest.head? ≠ some quoting.mark) :
    (quoting.body text ++ quoting.mark :: rest).take 2 ≠ [quoting.mark, quoting.mark] := by
  intro marks
  -- Two quotes would be the first character and another, or a character behind an empty body.
  cases shape : quoting.body text with
  | nil =>
    rw [shape] at marks
    cases rest with
    | nil => cases marks
    | cons c rest => exact other (by simpa using marks)
  | cons head tail =>
    have same : head = quoting.mark := by simpa [shape] using congrArg List.head? marks
    rcases head?_body suits (c := head) (by rw [shape]; rfl) with rfl | ⟨-, many⟩ | ⟨-, -, differs⟩
    · revert same
      unfold mark
      split <;> decide
    · rw [single] at many
      cases many
    · exact differs same

/-- A text that is written in a way that suits it reads back, in front of anything but a quote. -/
theorem quoted?_quote {quoting : Quoting} {text rest : List Char} (suits : quoting.Suits text)
    (other : rest.head? ≠ some quoting.mark) :
    quoted? (quoting.quote text ++ rest) = some (text, rest) := by
  have whole := read_body suits other
  -- On one line the text stands between single quotes. With many, a line end may follow the opening ones.
  cases many : quoting.multiline with
  | false =>
    have written : quoting.quote text ++ rest =
        quoting.mark :: (quoting.body text ++ quoting.mark :: rest) := by
      simp [quote, delimiter, body, many]
    have delimited : quoting.delimiter ++ rest = quoting.mark :: rest := by simp [delimiter, many]
    rw [written, quoted?_of_single (take_body suits many other)]
    rw [delimited] at whole
    rcases quoting with ⟨_ | _, _⟩ <;> cases many <;> exact whole
  | true =>
    have opened := lineEnd?_opening suits rest
    have written : quoting.quote text ++ rest = quoting.mark :: quoting.mark :: quoting.mark ::
        ((if text.contains '\n' then ['\n'] else []) ++
          (quoting.body text ++ (quoting.delimiter ++ rest))) := by
      simp [quote, delimiter, body, many, List.replicate]
    rw [written]
    -- The two kinds of quotes lead to the same reader, for many lines as well.
    rcases quoting with ⟨_ | _, _⟩ <;> cases many <;> exact (congrArg _ opened).trans whole

end NetworkLayer.Toml.Quoting

namespace NetworkLayer.Toml

/-- A quoted text reads back, in front of anything but a quote. -/
theorem quoted?_quoted (text : String) {rest : List Char} (noDouble : rest.head? ≠ some '"')
    (noSingle : rest.head? ≠ some '\'') :
    quoted? ((quoted text).toList ++ rest) = some (text.toList, rest) := by
  -- Whatever quote was chosen, it does not follow.
  have other : rest.head? ≠ some (Quoting.choose text.toList).mark := by
    unfold Quoting.mark
    split
    · exact noDouble
    · exact noSingle
  rw [quoted, String.toList_ofList]
  exact Quoting.quoted?_quote (Quoting.choose_suits text.toList) other

/-- A text between double quotes on one line reads back. -/
theorem quotedLine?_quote (text : List Char) {rest : List Char} (other : rest.head? ≠ some '"') :
    quotedLine? (Quoting.quote ⟨true, false⟩ text ++ rest) = some (text, rest) := by
  have suits : Quoting.Suits ⟨true, false⟩ text := fun literal => by cases literal
  have written : Quoting.quote ⟨true, false⟩ text ++ rest =
      '"' :: (Quoting.body ⟨true, false⟩ text ++ (Quoting.delimiter ⟨true, false⟩ ++ rest)) := by
    simp [Quoting.quote, Quoting.delimiter, Quoting.body, Quoting.mark]
  -- The text that suits these quotes is read up to the closing one.
  rw [written]
  exact Quoting.read_body suits other

/-- What begins with no quote is no text quoted on one line. -/
theorem quotedLine?_of_ne {c : Char} (noDouble : c ≠ '"') (noSingle : c ≠ '\'')
    (rest : List Char) : quotedLine? (c :: rest) = none := by
  rw [quotedLine?]
  · rintro _ ⟨⟩
    exact noDouble rfl
  · rintro _ ⟨⟩
    exact noSingle rfl

/-- What begins with no quote is no quoted text. -/
theorem quoted?_of_ne {c : Char} (noDouble : c ≠ '"') (noSingle : c ≠ '\'') (rest : List Char) :
    quoted? (c :: rest) = none := by
  -- Neither three quotes nor a single one stand in front.
  rw [quoted?]
  · exact quotedLine?_of_ne noDouble noSingle rest
  · rintro _ ⟨⟩
    exact noDouble rfl
  · rintro _ ⟨⟩
    exact noSingle rfl

end NetworkLayer.Toml
