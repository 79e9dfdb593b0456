import Mathlib.Algebra.Ring.Nat
import Mathlib.Logic.Function.Iterate
import NetworkLayer.Proofs.Checksum

/-!
Sums of 16-bit words in an accumulator of 32 bits. Main statement: where the exact sum fits into the accumulator, no
addition on the way to it wraps, and two rounds at most fold the carries in.
-/

namespace NetworkLayer.Checksum

section Words

/-- The big-endian 16-bit words of a byte string; an odd last byte is a high byte. -/
def words : Bytes → List Nat
  | [] => []
  -- The missing low byte counts as zero.
  | [high] => [high.toNat * 256]
  | high :: low :: rest => (high.toNat * 256 + low.toNat) :: words rest

/-- What is added to the start of a sum is the sum of the words. -/
theorem wordSum_eq (start : Nat) (bytes : Bytes) :
    wordSum start bytes = start + (words bytes).sum := by
  -- The sum goes on from each word to the next, as the list of words does.
  induction start, bytes using wordSum.induct with
  | case1 start => simp [wordSum, words]
  | case2 start high => simp [wordSum, words]
  | case3 start high low rest ih =>
    rw [wordSum, ih, words, List.sum_cons]
    omega

/-- Without its second word a message has all its other words. -/
theorem words_excise (message : Bytes) :
    words (Bytes.excise message 2 2) = (words message).eraseIdx 1 := by
  -- The second word starts behind two bytes, and a message that ends before has none.
  rcases message with _ | ⟨first, _ | ⟨second, _ | ⟨third, _ | ⟨fourth, rest⟩⟩⟩⟩
  · rfl
  · rfl
  · rfl
  · rfl
  · rfl

end Words

section Accumulator

/-- The sum of terms in an accumulator of 32 bits, one after another. -/
def accumulate (terms : List Nat) : UInt32 :=
  terms.foldl (fun sum term => sum + UInt32.ofNat term) 0

/-- One round of folding: what is above 16 bits is added to what is below. -/
def carryIn (sum : UInt32) : UInt32 :=
  (sum &&& (0xFFFF : UInt32)) + (sum >>> (16 : UInt32))

/-- An accumulator holds the sum of its terms, less what has wrapped. -/
theorem accumulate_toNat (terms : List Nat) :
    (accumulate terms).toNat = terms.sum % 0x100000000 := by
  -- The induction needs the accumulator at any value that the terms so far may have left.
  have from_start (start : UInt32) :
      (terms.foldl (fun sum term => sum + UInt32.ofNat term) start).toNat =
        (start.toNat + terms.sum) % 0x100000000 := by
    induction terms generalizing start with
    | nil =>
      rw [List.foldl_nil, List.sum_nil, Nat.add_zero, Nat.mod_eq_of_lt start.toNat_lt]
    | cons term terms ih =>
      rw [List.foldl_cons, ih, UInt32.toNat_add, UInt32.toNat_ofNat', List.sum_cons]
      omega
  rw [accumulate, from_start, UInt32.toNat_zero, Nat.zero_add]

/-- A round of folding never wraps. -/
theorem carryIn_toNat (sum : UInt32) :
    (carryIn sum).toNat = sum.toNat % 65536 + sum.toNat / 65536 := by
  have bound : sum.toNat < 0x100000000 := sum.toNat_lt
  have low : (sum &&& (0xFFFF : UInt32)).toNat = sum.toNat % 65536 := by
    rw [UInt32.toNat_and]
    exact Nat.and_two_pow_sub_one_eq_mod sum.toNat 16
  have high : (sum >>> (16 : UInt32)).toNat = sum.toNat / 65536 := by
    rw [UInt32.toNat_shiftRight]
    exact Nat.shiftRight_eq_div_pow sum.toNat 16
  -- Both parts fit 16 bits.
  rw [carryIn, UInt32.toNat_add, low, high]
  omega

/-- A sum folds by rounds until nothing is left above 16 bits, and the second round leaves nothing there. -/
theorem fold_rounds (sum : UInt32) : ∃ rounds ≤ 2,
    (carryIn^[rounds] sum).toNat = fold sum.toNat ∧
      ∀ round < rounds, carryIn^[round] sum >>> (16 : UInt32) ≠ 0 := by
  have bound : sum.toNat < 0x100000000 := sum.toNat_lt
  -- A value that is too large for 16 bits has something above them.
  have above (value : UInt32) (large : ¬ value.toNat < 65536) : value >>> (16 : UInt32) ≠ 0 := by
    intro nothing
    have shifted : (value >>> (16 : UInt32)).toNat = value.toNat / 65536 := by
      rw [UInt32.toNat_shiftRight]
      exact Nat.shiftRight_eq_div_pow value.toNat 16
    rw [nothing, UInt32.toNat_zero] at shifted
    omega
  -- The cases are the rounds that it takes: none, one, or two.
  by_cases small : sum.toNat < 65536
  · refine ⟨0, by decide, ?_, ?_⟩
    · rw [fold, if_pos small]
      rfl
    · intro round none
      cases none
  have first := carryIn_toNat sum
  by_cases folded : (carryIn sum).toNat < 65536
  · refine ⟨1, by decide, ?_, ?_⟩
    · rw [fold, if_neg small, ← first, fold, if_pos folded]
      rfl
    · intro round before
      obtain rfl : round = 0 := by omega
      exact above sum small
  -- The first round leaves one carry at most, which the second one adds to a small rest.
  have second := carryIn_toNat (carryIn sum)
  refine ⟨2, by decide, ?_, ?_⟩
  · rw [fold, if_neg small, ← first, fold, if_neg folded, ← second, fold, if_pos (by omega)]
    rfl
  · intro round before
    rcases Nat.lt_or_ge round 1 with begin | later
    · obtain rfl : round = 0 := by omega
      exact above sum small
    · obtain rfl : round = 1 := by omega
      exact above (carryIn sum) folded

/-- Terms that add up and fold as they should in an accumulator of 32 bits. -/
structure SumsExactly (terms : List Nat) (folded : Nat) : Prop where
  /-- After each addition the accumulator holds the exact sum of the terms so far. -/
  unwrapped : ∀ count, (accumulate (terms.take count)).toNat = (terms.take count).sum
  /-- The rounds of folding end after two at most, when what is left fits 16 bits. -/
  folds : ∃ rounds ≤ 2, (carryIn^[rounds] (accumulate terms)).toNat = folded ∧ folded < 65536 ∧
    ∀ round < rounds, carryIn^[round] (accumulate terms) >>> (16 : UInt32) ≠ 0

/-- Terms whose sum fits the accumulator add up exactly. -/
theorem sumsExactly {terms : List Nat} (fits : terms.sum < 0x100000000) :
    SumsExactly terms (fold terms.sum) := by
  -- No sum on the way is larger than the last one.
  have part (count : Nat) : (terms.take count).sum ≤ terms.sum := by
    have whole := congrArg List.sum (List.take_append_drop count terms)
    rw [List.sum_append] at whole
    omega
  have precise (count : Nat) : (accumulate (terms.take count)).toNat = (terms.take count).sum := by
    rw [accumulate_toNat]
    exact Nat.mod_eq_of_lt (Nat.lt_of_le_of_lt (part count) fits)
  have total : (accumulate terms).toNat = terms.sum := by
    rw [accumulate_toNat]
    exact Nat.mod_eq_of_lt fits
  obtain ⟨rounds, few, folded, before⟩ := fold_rounds (accumulate terms)
  rw [total] at folded
  exact ⟨precise, rounds, few, folded, fold_lt _, before⟩

end Accumulator

end NetworkLayer.Checksum
