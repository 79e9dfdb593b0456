import NetworkLayer.Proofs.Numeral
import NetworkLayer.Toml.Number

/-!
Readers step by step, and decimal integers read back. Main statement: the digits of a number in
front of the end of a value are read as the number, not as a date, a time or a float.
-/

namespace NetworkLayer.Toml

namespace Reader

variable {α β : Type}

/-- One reader after another starts where that one stopped. -/
theorem bind_apply (first : Reader α) (next : α → Reader β) (text : List Char) :
    (first >>= next) text = (first text).bind fun result => next result.1 result.2 := rfl

/-- A reader of nothing leaves the text. -/
theorem pure_apply (result : α) (text : List Char) :
    (pure result : Reader α) text = some (result, text) := rfl

/-- The second of two readers counts where the first one refuses. -/
theorem orElse_apply (first second : Reader α) (text : List Char) :
    (first <|> second) text = (first text).orElse fun _ => second text := rfl

/-- What may be missing is missing where it is refused. -/
theorem optional_apply (item : Reader α) (text : List Char) :
    (optional item) text = ((item text).map fun result => (some result.1, result.2)).orElse
      fun _ => some (none, text) := by
  cases taken : item text with
  | none => simp [optional, taken, orElse_apply, Functor.map, StateT.map, pure_apply]
  | some result => simp [optional, taken, orElse_apply, Functor.map, StateT.map]

/-- A character that is there is taken. -/
theorem char_cons (c : Char) (rest : List Char) : char c (c :: rest) = some ((), rest) := if_pos rfl

/-- A character that is not there is refused. -/
theorem char_of_ne {c d : Char} (other : d ≠ c) (rest : List Char) : char c (d :: rest) = none :=
  if_neg other

/-- A word that begins with another character is refused. -/
theorem word_of_ne {c d : Char} (other : d ≠ c) (expected rest : List Char) :
    word (c :: expected) (d :: rest) = none := by
  change (char c >>= fun _ => word expected) (d :: rest) = none
  rw [bind_apply, char_of_ne other]
  rfl

/-- Characters of a class are taken up to one that is not of the class. -/
theorem span_append {accept : Char → Bool} {front : List Char} {stop : Char}
    (taken : ∀ c ∈ front, accept c) (stopped : accept stop = false) (rest : List Char) :
    span accept (front ++ stop :: rest) = some (front, stop :: rest) := by
  rw [span, List.takeWhile_append_of_pos taken, List.dropWhile_append_of_pos taken]
  simp [stopped]

end Reader

/-- Whether a character ends a value: with its line, or inside an array. -/
def Delimits (c : Char) : Prop := c = '\n' ∨ c = ',' ∨ c = ']'

namespace Number

open Reader

/-- Behind a field of some digits stands another digit or what stands behind the digits. -/
theorem field_next {width least most value : Nat} {digits : List Char} {stop : Char}
    {rest after : List Char} (noDigit : Text.digit? 10 stop = none)
    (taken : field width least most (digits ++ stop :: rest) = some (value, after)) :
    ∃ next tail, after = next :: tail ∧ (next = stop ∨ next ∈ digits) := by
  -- The field takes as many characters as it is wide, all of them digits.
  simp only [field, Option.bind_eq_bind, Option.bind_eq_some_iff] at taken
  obtain ⟨number, spelled, taken⟩ := taken
  split at taken
  · have dropped : (digits ++ stop :: rest).drop width = after :=
      congrArg Prod.snd (Option.some.inj taken)
    -- It cannot take the character behind the digits, which is none.
    have within : width ≤ digits.length := by
      refine Nat.le_of_not_lt fun beyond => ?_
      have listed : stop ∈ (digits ++ stop :: rest).take width := by
        rw [List.take_append]
        obtain ⟨excess, width⟩ := Nat.exists_eq_add_of_lt beyond
        simp [width, Nat.add_assoc, List.take_succ_cons]
      simpa [noDigit] using Text.digit?_of_digits? spelled listed
    rw [List.drop_append_of_le_length within] at dropped
    -- So either all digits are taken, or one is left in front.
    cases left : digits.drop width with
    | nil => exact ⟨stop, rest, by simpa [left] using dropped.symm, .inl rfl⟩
    | cons next tail =>
      exact ⟨next, tail ++ stop :: rest, by simpa [left] using dropped.symm,
        .inr (List.mem_of_mem_drop (left ▸ List.mem_cons_self))⟩
  · cases taken

/-- A field does not begin with anything but a digit. -/
theorem field_of_noDigit {c : Char} (noDigit : Text.digit? 10 c = none) (width least most : Nat)
    (rest : List Char) : field (width + 1) least most (c :: rest) = none := by
  -- The first character would have to be one of the digits.
  have unspelled : Text.digits? 10 ((c :: rest).take (width + 1)) = none := by
    cases spelled : Text.digits? 10 ((c :: rest).take (width + 1)) with
    | none => rfl
    | some value =>
      have digit := Text.digit?_of_digits? spelled (c := c) (by simp)
      rw [noDigit] at digit
      cases digit
  rw [field, unspelled]
  rfl

/-- A closing bracket begins no number and no date. -/
theorem value_bracket (rest : List Char) : Number.value (']' :: rest) = none := by
  have noField (width least most : Nat) : field (width + 1) least most (']' :: rest) = none :=
    field_of_noDigit (by decide) width least most rest
  -- Every other way to read a number starts with a digit, a sign or a letter.
  have noDateTime : dateTime (']' :: rest) = none := by
    rw [dateTime, orElse_apply, time, bind_apply, noField, bind_apply, date, bind_apply, noField]
    rfl
  have noFloat : float (']' :: rest) = none := rfl
  have noInteger : integer (']' :: rest) = none := rfl
  rw [Number.value, orElse_apply, orElse_apply, bind_apply, bind_apply, bind_apply, lexeme, lexeme,
    noDateTime, noFloat, noInteger]
  rfl

section Numeral

variable {number : Nat} {stop : Char} {rest : List Char}

/-- What ends a value is no digit. -/
theorem digit?_of_delimits (delimits : Delimits stop) : Text.digit? 10 stop = none := by
  rcases delimits with rfl | rfl | rfl <;> decide

/-- Behind the first digits of a numeral stands no mark of a date or a time. -/
theorem field_char {α : Type} (delimits : Delimits stop) {mark : Char}
    (part : mark = ':' ∨ mark = '-') (width least most : Nat) (next : Nat → Reader α) :
    (field width least most >>= fun value => char mark >>= fun _ => next value)
      (Nat.toDigits 10 number ++ stop :: rest) = none := by
  -- The field may fail. If it does not, the mark is asked of a digit or of the delimiter.
  rw [bind_apply]
  cases taken : field width least most (Nat.toDigits 10 number ++ stop :: rest) with
  | none => rfl
  | some result =>
    obtain ⟨after, tail, left, which⟩ := field_next (digit?_of_delimits delimits) taken
    have other : after ≠ mark := by
      rintro rfl
      rcases which with rfl | listed
      · rcases part with rfl | rfl <;> rcases delimits with same | same | same <;> cases same
      · have digit := Text.digit?_of_mem_toDigits (by decide) (by decide) listed
        rcases part with rfl | rfl <;> cases digit
    rw [Option.bind_some, left, bind_apply, char_of_ne other]
    rfl

/-- A numeral is no date and no time. -/
theorem dateTime_numeral (delimits : Delimits stop) :
    dateTime (Nat.toDigits 10 number ++ stop :: rest) = none := by
  -- A time needs a colon behind two digits, and a date a dash behind four.
  have noTime : time (Nat.toDigits 10 number ++ stop :: rest) = none :=
    field_char delimits (.inl rfl) 2 0 23 _
  have noDate : date (Nat.toDigits 10 number ++ stop :: rest) = none :=
    field_char delimits (.inr rfl) 4 0 9999 _
  rw [dateTime, orElse_apply, noTime, Option.orElse_none, bind_apply, noDate]
  rfl

/-- Digits without underscores are well parted. -/
theorem wellParted_of_digits {digits : List Char} (some : digits ≠ [])
    (all : ∀ c ∈ digits, c ≠ '_') : wellParted digits := by
  -- By the cases of the test itself, two of which meet an underscore.
  fun_induction wellParted digits with
  | case1 => exact absurd rfl some
  | case2 c => exact decide_eq_true (all c List.mem_cons_self)
  | case3 => exact absurd rfl (all '_' List.mem_cons_self)
  | case4 => exact absurd rfl (all '_' (List.mem_cons_of_mem _ List.mem_cons_self))
  | case5 first rest single _ _ ih =>
    exact ih single fun c listed => all c (List.mem_cons_of_mem _ listed)

/-- The digits of a numeral are taken as they are. -/
theorem plainDigits_numeral (delimits : Delimits stop) :
    plainDigits (Nat.toDigits 10 number ++ stop :: rest) =
      some (Nat.toDigits 10 number, stop :: rest) := by
  -- No digit is an underscore, and all of them are accepted.
  have noUnderscore : ∀ c ∈ Nat.toDigits 10 number, c ≠ '_' := by
    rintro _ listed rfl
    exact Nat.underscore_not_in_toDigits listed
  have accepted : ∀ c ∈ Nat.toDigits 10 number, (c = '_' || (Text.digit? 10 c).isSome) = true := by
    intro c listed
    rw [Text.digit?_of_mem_toDigits (by decide) (by decide) listed, Bool.or_true]
  have run : digits 10 (Nat.toDigits 10 number ++ stop :: rest) =
      some (Nat.toDigits 10 number, stop :: rest) := by
    have stopped : (stop = '_' || (Text.digit? 10 stop).isSome) = false := by
      rcases delimits with rfl | rfl | rfl <;> decide
    have kept : (Nat.toDigits 10 number).filter (· ≠ '_') = Nat.toDigits 10 number :=
      List.filter_eq_self.mpr fun c listed => decide_eq_true (noUnderscore c listed)
    rw [digits, bind_apply, span_append accepted stopped, Option.bind_some,
      if_pos (wellParted_of_digits Nat.toDigits_ne_nil noUnderscore), pure_apply, kept]
  -- A numeral of more than one digit does not start with a zero.
  have noZero : ((Nat.toDigits 10 number).length > 1 &&
      (Nat.toDigits 10 number).head? = some '0') = false := by
    rcases Nat.eq_zero_or_pos number with rfl | positive
    · decide
    · simp [Text.head?_toDigits_of_pos positive]
  rw [plainDigits, bind_apply, run, Option.bind_some, noZero]
  rfl

/-- A numeral begins with a digit. -/
theorem numeral_eq_cons (number : Nat) :
    ∃ first more, Nat.toDigits 10 number = first :: more ∧ (Text.digit? 10 first).isSome := by
  cases shape : Nat.toDigits 10 number with
  | nil => exact absurd shape Nat.toDigits_ne_nil
  | cons first more =>
    exact ⟨first, more, rfl, Text.digit?_of_mem_toDigits (by decide) (by decide) (shape ▸ List.mem_cons_self)⟩

/-- A numeral has no sign. -/
theorem sign_numeral :
    sign (Nat.toDigits 10 number ++ stop :: rest) =
      some (false, Nat.toDigits 10 number ++ stop :: rest) := by
  obtain ⟨first, more, shape, digit⟩ := numeral_eq_cons number
  -- A digit stands first, which is no sign.
  have noMinus : first ≠ '-' := by rintro rfl; cases digit
  have noPlus : first ≠ '+' := by rintro rfl; cases digit
  rw [shape, List.cons_append, sign, orElse_apply, orElse_apply, bind_apply, bind_apply,
    char_of_ne noMinus, char_of_ne noPlus]
  rfl

/-- A numeral is no float. -/
theorem float_numeral (delimits : Delimits stop) :
    float (Nat.toDigits 10 number ++ stop :: rest) = none := by
  have noDot : stop ≠ '.' := by rcases delimits with rfl | rfl | rfl <;> decide
  have noMark : (stop = 'e' || stop = 'E') = false := by
    rcases delimits with rfl | rfl | rfl <;> decide
  have noDecimal : decimal (Nat.toDigits 10 number ++ stop :: rest) = none := by
    -- Neither a fraction nor an exponent stands behind the numeral, so as a decimal it is incomplete.
    have noFraction : ((do char '.'; digits 10) <|> return [] : Reader (List Char)) (stop :: rest) =
        some ([], stop :: rest) := by
      rw [orElse_apply, bind_apply, char_of_ne noDot]
      rfl
    have noExponent : ((do return some (← decimal.exponentPart)) <|> return none :
        Reader (Option Int)) (stop :: rest) = some (none, stop :: rest) := by
      rw [orElse_apply, bind_apply, decimal.exponentPart, bind_apply, oneOf, noMark]
      rfl
    rw [decimal, bind_apply, sign_numeral, Option.bind_some, bind_apply,
      plainDigits_numeral delimits, Option.bind_some, bind_apply, noFraction, Option.bind_some,
      bind_apply, noExponent]
    rfl
  -- What is left are the two words, and a digit begins neither.
  obtain ⟨first, more, shape, digit⟩ := numeral_eq_cons number
  have noInf : first ≠ 'i' := by rintro rfl; cases digit
  have noNan : first ≠ 'n' := by rintro rfl; cases digit
  rw [float, orElse_apply, noDecimal, Option.orElse_none, bind_apply, sign_numeral, Option.bind_some,
    shape]
  have inf : word "inf".toList (first :: (more ++ stop :: rest)) = none := word_of_ne noInf ..
  have nan : word "nan".toList (first :: (more ++ stop :: rest)) = none := word_of_ne noNan ..
  rw [orElse_apply, List.cons_append, inf, nan]
  rfl

/-- A decimal numeral is in no other base. -/
theorem based_numeral (delimits : Delimits stop) {mark : Char}
    (based : mark = 'x' ∨ mark = 'o' ∨ mark = 'b') (base : Nat) :
    integer.based mark base (Nat.toDigits 10 number ++ stop :: rest) = none := by
  rw [integer.based, bind_apply]
  -- Only zero starts with the character that marks a base, and behind it stands no mark.
  rcases Nat.eq_zero_or_pos number with rfl | positive
  · have other : stop ≠ mark := by
      rcases delimits with rfl | rfl | rfl <;> rcases based with rfl | rfl | rfl <;> decide
    rw [show Nat.toDigits 10 0 = ['0'] from rfl, List.singleton_append, char_cons, Option.bind_some,
      bind_apply, char_of_ne other]
    rfl
  · obtain ⟨first, more, shape, -⟩ := numeral_eq_cons number
    have noZero : first ≠ '0' := by
      rintro rfl
      exact Text.head?_toDigits_of_pos positive (by rw [shape]; rfl)
    rw [shape, List.cons_append, char_of_ne noZero]
    rfl

/-- A numeral is read as the integer. -/
theorem integer_numeral (small : number < 0x8000000000000000) (delimits : Delimits stop) :
    integer (Nat.toDigits 10 number ++ stop :: rest) = some (Int.ofNat number, stop :: rest) := by
  -- The number fits, so the bound of the reader lets it pass.
  have bounded : below (1 <<< 63) 10 (Nat.toDigits 10 number) (stop :: rest) =
      some (number, stop :: rest) := by
    have fits : decide (number < 1 <<< 63) = true := decide_eq_true small
    rw [below, Text.digits?_toDigits (by decide) (by decide), Option.filter_some, if_pos fits]
    rfl
  -- Each of the three bases fails first, and then the decimal digits are read.
  rw [integer, orElse_apply, orElse_apply, orElse_apply, based_numeral delimits (.inl rfl),
    based_numeral delimits (.inr (.inl rfl)), based_numeral delimits (.inr (.inr rfl)),
    Option.orElse_none, Option.orElse_none, Option.orElse_none, bind_apply, sign_numeral,
    Option.bind_some, bind_apply, plainDigits_numeral delimits, Option.bind_some]
  simp only [Bool.false_eq_true, if_false]
  rw [bind_apply, bounded]
  rfl

/-- The digits of a number are read as the integer. -/
theorem value_numeral (small : number < 0x8000000000000000) (delimits : Delimits stop) :
    Number.value (Nat.toDigits 10 number ++ stop :: rest) =
      some (.integer number, stop :: rest) := by
  rw [Number.value, orElse_apply, orElse_apply, bind_apply, bind_apply, bind_apply, lexeme, lexeme,
    dateTime_numeral delimits, float_numeral delimits, integer_numeral small delimits]
  rfl

end Numeral

end Number

end NetworkLayer.Toml
