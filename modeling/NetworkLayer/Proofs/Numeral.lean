import NetworkLayer.Text.Blank
import NetworkLayer.Text.Numeral

/-! Numerals. Main statement: the digits of a number read back as the number. -/

namespace NetworkLayer.Text

section Base

variable {base : Nat}

/-- The digit of a number below the base has it as its value. -/
theorem digit?_digitChar (most : base ≤ 16) {digit : Nat} (small : digit < base) :
    digit? base digit.digitChar = some digit := by
  have all : ∀ base < 17, ∀ digit < base, digit? base digit.digitChar = some digit := by decide
  exact all base (Nat.lt_succ_of_le most) digit small

/-- The digits of a number spell it. -/
theorem foldl_toDigits (least : 1 < base) (most : base ≤ 16) (number : Nat) :
    (Nat.toDigits base number).foldl
      (fun sum c => do return (← sum) * base + (← digit? base c)) (some 0) = some number := by
  -- The last digit is what is left over of a division by the base.
  induction number using Nat.strongRecOn with
  | ind number ih =>
    rw [Nat.toDigits_eq_if least]
    split
    · rename_i small
      rw [List.foldl_cons, List.foldl_nil, digit?_digitChar most small]
      simp
    · rename_i large
      have less : number / base < number := Nat.div_lt_self (by omega) least
      rw [List.foldl_append, ih (number / base) less, List.foldl_cons, List.foldl_nil,
        digit?_digitChar most (Nat.mod_lt number (by omega))]
      simp only [Option.bind_eq_bind, Option.bind_some, Option.pure_def, Option.some_inj]
      exact Nat.div_add_mod' number base

/-- The digits of a number read back. -/
theorem digits?_toDigits (least : 1 < base) (most : base ≤ 16) (number : Nat) :
    digits? base (Nat.toDigits base number) = some number := by
  rw [digits?, if_neg (by simp)]
  exact foldl_toDigits least most number

end Base

/-- Only digits spell a number. -/
theorem digit?_of_digits? {base number : Nat} {text : List Char}
    (spelled : digits? base text = some number) {c : Char} (listed : c ∈ text) :
    (digit? base c).isSome := by
  have all (start : Option Nat) (total : text.foldl
      (fun sum c => do return (← sum) * base + (← digit? base c)) start = some number) :
      start.isSome ∧ ∀ c ∈ text, (digit? base c).isSome := by
    clear spelled listed
    induction text generalizing start with
    | nil => exact ⟨Option.isSome_of_mem total, fun c listed => by cases listed⟩
    | cons head text ih =>
      obtain ⟨summed, tail⟩ := ih _ total
      -- A sum that is there was there before, and has got a digit.
      cases start with
      | none => cases summed
      | some sum =>
        refine ⟨rfl, ?_⟩
        rw [List.forall_mem_cons]
        refine ⟨?_, tail⟩
        cases digit : digit? base head with
        | none => simp [digit] at summed
        | some value => rfl
  unfold digits? at spelled
  split at spelled
  · cases spelled
  · exact (all _ spelled).2 c listed

/-- Every character of a numeral is a digit. -/
theorem digit?_of_mem_toDigits {base : Nat} (least : 1 < base) (most : base ≤ 16) {number : Nat}
    {c : Char} (member : c ∈ Nat.toDigits base number) : (digit? base c).isSome :=
  digit?_of_digits? (digits?_toDigits least most number) member

/-- A decimal numeral is made of decimal digits. -/
theorem toList_decimal (number : Nat) : (decimal number).toList = Nat.toDigits 10 number :=
  String.toList_ofList

/-- The digits of a number below a limit read back without a sign. -/
theorem unsigned?_toDigits {base : Nat} (least : 1 < base) (most : base ≤ 16) {limit number : Nat}
    (below : number < limit) : unsigned? base limit (Nat.toDigits base number) = some number := by
  rw [unsigned?, digits?_toDigits least most, Option.filter_some, if_pos (decide_eq_true below)]
  -- A sign is no digit.
  intro rest shape
  have sign : (digit? base '+').isSome :=
    digit?_of_mem_toDigits least most (shape ▸ List.mem_cons_self)
  cases sign

/-- A digit of a base is one of every larger base. -/
theorem digit?_mono {base larger : Nat} (atMost : base ≤ larger) {c : Char}
    (digit : (digit? base c).isSome) : (digit? larger c).isSome := by
  obtain ⟨value, read⟩ := Option.isSome_iff_exists.mp digit
  obtain ⟨shown, small⟩ := Option.filter_eq_some_iff.mp read
  have fits : value < larger := Nat.lt_of_lt_of_le (of_decide_eq_true small) atMost
  exact Option.isSome_iff_exists.mpr
    ⟨value, Option.filter_eq_some_iff.mpr ⟨shown, decide_eq_true fits⟩⟩

/-- A digit is no white space. -/
theorem isBlank_of_digit? {base : Nat} {c : Char} (digit : (digit? base c).isSome) :
    isBlank c = false := by
  have range : 0x30 ≤ c.toNat ∧ c.toNat ≤ 0x66 := by
    obtain ⟨value, read⟩ := Option.isSome_iff_exists.mp digit
    obtain ⟨shown, -⟩ := Option.filter_eq_some_iff.mp read
    -- The digits and the letters of either case are three ranges.
    have between {low high : Char} (inside : low ≤ c ∧ c ≤ high) (least : 0x30 ≤ low.toNat)
        (most : high.toNat ≤ 0x66) : 0x30 ≤ c.toNat ∧ c.toNat ≤ 0x66 :=
      ⟨Nat.le_trans least inside.1, Nat.le_trans inside.2 most⟩
    split at shown
    · exact between ‹_› (by decide) (by decide)
    · split at shown
      · exact between ‹_› (by decide) (by decide)
      · split at shown
        · exact between ‹_› (by decide) (by decide)
        · cases shown
  simp only [isBlank]
  simp
  omega

/-- Only the numeral of zero starts with a zero. -/
theorem head?_toDigits_of_pos {number : Nat} (positive : 0 < number) :
    (Nat.toDigits 10 number).head? ≠ some '0' := by
  -- Strong induction, since the first digit is that of the number without its last one.
  induction number using Nat.strongRecOn with
  | ind number ih =>
    rw [Nat.toDigits_eq_if (by decide)]
    split
    · simp
      omega
    · rw [List.head?_append, List.head?_eq_some_head Nat.toDigits_ne_nil, Option.some_or,
        ← List.head?_eq_some_head Nat.toDigits_ne_nil]
      exact ih (number / 10) (by omega) (by omega)

end NetworkLayer.Text
