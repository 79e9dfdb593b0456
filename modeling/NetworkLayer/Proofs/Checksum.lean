import NetworkLayer.Checksum
import NetworkLayer.Proofs.Bytes

/-!
Writing a checksum changes only the word that holds it. Main statement: a byte string with its own
checksum in one of its words is intact.
-/

namespace NetworkLayer.Checksum

/-- A byte string is stamped by writing one word. -/
theorem stamp_eq {bytes : Bytes} {offset : Nat} (fits : offset + 2 ≤ bytes.length) :
    stamp bytes offset = Bytes.patch bytes offset
      (Bytes.ofWord (ofBytes (Bytes.patch bytes offset [0, 0]))) :=
  Bytes.patch_patch (by omega) (by rw [Bytes.ofWord_length]; rfl)

/-- A checksum word within the byte string keeps its length. -/
@[simp] theorem stamp_length {bytes : Bytes} {offset : Nat} (fits : offset + 2 ≤ bytes.length) :
    (stamp bytes offset).length = bytes.length := by
  rw [stamp_eq fits, Bytes.patch_word_length fits]

/-- A slice apart from the checksum word is left alone. -/
theorem slice_stamp_of_apart {bytes : Bytes} {offset start width : Nat}
    (fits : offset + 2 ≤ bytes.length) (apart : start + width ≤ offset ∨ offset + 2 ≤ start) :
    Bytes.slice (stamp bytes offset) start width = Bytes.slice bytes start width := by
  rw [stamp_eq fits,
    Bytes.slice_patch_of_apart _ (by omega) (by rw [Bytes.ofWord_length]; exact apart)]

/-- What lies behind the checksum word is left alone. -/
theorem drop_stamp {bytes : Bytes} {offset start : Nat} (fits : offset + 2 ≤ bytes.length)
    (behind : offset + 2 ≤ start) : (stamp bytes offset).drop start = bytes.drop start := by
  rw [stamp_eq fits, Bytes.drop_patch _ (by omega) (by rw [Bytes.ofWord_length]; exact behind)]

section Sum

/-- What a sum starts with is added to it. -/
theorem wordSum_start : ∀ (start : Nat) (bytes : Bytes),
    wordSum start bytes = start + wordSum 0 bytes
  | start, [] => rfl
  | start, [high] => by simp [wordSum]
  -- Both sums go on with the same words, from different starts.
  | start, high :: low :: rest => by
    rw [wordSum, wordSum_start _ rest, wordSum, wordSum_start (0 + _ + _) rest]
    omega

/-- The words of an even number of bytes end where the next words begin. -/
theorem wordSum_append {front : Bytes} (even : front.length % 2 = 0) (start : Nat) (back : Bytes) :
    wordSum start (front ++ back) = wordSum start front + wordSum 0 back := by
  -- Two bytes at a time; an even number of them leaves no half word.
  induction start, front using wordSum.induct with
  | case1 start => exact wordSum_start start back
  | case2 start high => simp at even
  | case3 start high low rest ih =>
    simp only [List.length_cons] at even
    rw [List.cons_append, List.cons_append, wordSum, wordSum, ih (by omega)]

/-- A word adds itself. -/
theorem wordSum_ofWord (word : UInt16) : wordSum 0 (Bytes.ofWord word) = word.toNat := by
  have small : word.toNat < 65536 := word.toNat_lt
  simp only [Bytes.ofWord, Bytes.ofValue, List.nil_append, List.cons_append, wordSum,
    UInt8.toNat_ofNat']
  omega

/-- Each pair of bytes adds 65535 at most, and so does an odd last byte. -/
theorem wordSum_le (start : Nat) (bytes : Bytes) :
    wordSum start bytes ≤ start + 65535 * ((bytes.length + 1) / 2) := by
  induction start, bytes using wordSum.induct with
  | case1 start => simp [wordSum]
  | case2 start high =>
    have small : high.toNat < 256 := high.toNat_lt
    simp only [wordSum, List.length_cons, List.length_nil]
    omega
  | case3 start high low rest ih =>
    -- The words behind a pair are those of two bytes less.
    have small : high.toNat < 256 := high.toNat_lt
    have smaller : low.toNat < 256 := low.toNat_lt
    simp only [wordSum, List.length_cons]
    omega

/-- The words of 65535 bytes do not outgrow the accumulator, nor does a start of 31 bits with them. -/
theorem wordSum_lt {start : Nat} {bytes : Bytes} (few : start < 0x80000000)
    (short : bytes.length ≤ 65535) : start + wordSum 0 bytes < 0x100000000 := by
  have bound := wordSum_le 0 bytes
  omega

/-- The sum of a byte string that is not too long loses no carry. -/
theorem onesSum_eq {start : Nat} {bytes : Bytes} (few : start < 0x80000000)
    (short : bytes.length ≤ 65535) : onesSum start bytes = fold (start + wordSum 0 bytes) := by
  rw [onesSum, wordSum_start, Nat.mod_eq_of_lt (wordSum_lt few short)]

/-- Writing a word at an even offset over a zero adds the word. -/
theorem wordSum_patch {bytes : Bytes} {offset : Nat} (fits : offset + 2 ≤ bytes.length)
    (even : offset % 2 = 0) (word : UInt16) :
    wordSum 0 (Bytes.patch bytes offset (Bytes.ofWord word)) =
      wordSum 0 (Bytes.patch bytes offset [0, 0]) + word.toNat := by
  have front : (bytes.take offset).length = offset := List.length_take_of_le (by omega)
  have zero : ([0, 0] : Bytes) = Bytes.ofWord 0 := rfl
  -- The word stands alone between the bytes in front of it and those behind it.
  have split (other : UInt16) : wordSum 0 (Bytes.patch bytes offset (Bytes.ofWord other)) =
      wordSum 0 (bytes.take offset) + other.toNat + wordSum 0 (bytes.drop (offset + 2)) := by
    rw [Bytes.patch, wordSum_append (by simp [front]; omega), wordSum_append (by omega),
      wordSum_ofWord, Bytes.ofWord_length]
  rw [zero, split word, split 0]
  simp only [UInt16.toNat_zero]
  omega

end Sum

section Fold

/-- A folded sum fits a word. -/
theorem fold_lt (sum : Nat) : fold sum < 65536 := by
  induction sum using fold.induct with
  | case1 sum small => rwa [fold, if_pos small]
  | case2 sum large ih => rwa [fold, if_neg large]

/-- Folding keeps the remainder by 65535, since a carry counts as much as a one. -/
theorem fold_mod (sum : Nat) : fold sum % 65535 = sum % 65535 := by
  induction sum using fold.induct with
  | case1 sum small => rw [fold, if_pos small]
  | case2 sum large ih =>
    rw [fold, if_neg large, ih]
    omega

/-- Folding makes nothing of nothing alone. -/
theorem fold_pos {sum : Nat} (positive : 0 < sum) : 0 < fold sum := by
  induction sum using fold.induct with
  | case1 sum small => rwa [fold, if_pos small]
  | case2 sum large ih =>
    rw [fold, if_neg large]
    exact ih (by omega)

/-- A sum that is a multiple of 65535 folds to all ones, unless it is zero. -/
theorem fold_of_multiple {sum : Nat} (positive : 0 < sum) (multiple : sum % 65535 = 0) :
    fold sum = 65535 := by
  have small := fold_lt sum
  have same := fold_mod sum
  have folded := fold_pos positive
  omega

/-- A word that counts as much as the complement of the fold makes a sum fold to all ones, unless both are zero. -/
theorem fold_completed {sum word : Nat} (same : word % 65535 = (65535 - fold sum) % 65535)
    (positive : 0 < sum + word) : fold (sum + word) = 65535 := by
  have small := fold_lt sum
  have folded := fold_mod sum
  -- The word makes up what the sum lacks to a multiple of 65535.
  exact fold_of_multiple positive (by omega)

/-- With the complement of its fold added, a sum folds to all ones. -/
theorem fold_add_complement (sum : Nat) : fold (sum + (65535 - fold sum)) = 65535 := by
  refine fold_completed rfl ?_
  have zero : fold 0 = 0 := by
    rw [fold]
    rfl
  -- The sum that is zero folds to zero, which is the one case where the complement is all ones.
  rcases Nat.eq_zero_or_pos sum with rfl | positive
  · omega
  · omega

/-- A sum folds to all ones when it is a multiple of 65535, unless it is zero. -/
theorem fold_eq_all_ones_iff {sum : Nat} : fold sum = 65535 ↔ 0 < sum ∧ 65535 ∣ sum := by
  constructor
  · intro all
    have same := fold_mod sum
    rw [all] at same
    refine ⟨?_, Nat.dvd_of_mod_eq_zero same.symm⟩
    rcases Nat.eq_zero_or_pos sum with none | positive
    · -- Nothing folds to nothing.
      rw [none, fold, if_pos (by decide)] at all
      cases all
    · exact positive
  · intro multiple
    exact fold_of_multiple multiple.1 (Nat.mod_eq_zero_of_dvd multiple.2)

/-- A complement is zero for all ones alone. -/
theorem complement_eq_zero_iff {sum : Nat} (small : sum < 65536) :
    complement sum = 0 ↔ sum = 65535 := by
  have value : (complement sum).toNat = 65535 - sum :=
    UInt16.toNat_ofNat_of_lt' (show 65535 - sum < 65536 by omega)
  rw [← UInt16.toNat_inj, value, UInt16.toNat_zero]
  omega

end Fold

section Word

variable {start offset : Nat} {bytes : Bytes} (few : start < 0x80000000)
  (short : bytes.length ≤ 65535)
include few short

/-- The checksum of a byte string is the complement of a sum that loses no carry. -/
theorem continued_toNat :
    (continued start bytes).toNat = 65535 - fold (start + wordSum 0 bytes) := by
  rw [continued, complement, onesSum_eq few short]
  exact UInt16.toNat_ofNat_of_lt' (show 65535 - _ < 65536 by omega)

/-- A word at an even offset counts as much as a start that is larger by it. -/
theorem onesSum_patch (fits : offset + 2 ≤ bytes.length) (even : offset % 2 = 0) (word : UInt16) :
    onesSum start (Bytes.patch bytes offset (Bytes.ofWord word)) =
      fold (start + wordSum 0 (Bytes.patch bytes offset [0, 0]) + word.toNat) := by
  have length : (Bytes.patch bytes offset (Bytes.ofWord word)).length = bytes.length :=
    Bytes.patch_word_length fits word
  rw [onesSum_eq few (by rw [length]; exact short), wordSum_patch fits even, Nat.add_assoc]

end Word

/-- A byte string with its own checksum in a word at an even offset is intact. -/
theorem verifies_stamp {bytes : Bytes} {offset : Nat} (fits : offset + 2 ≤ bytes.length)
    (even : offset % 2 = 0) (short : bytes.length ≤ 65535) : verifies (stamp bytes offset) := by
  have blank : (Bytes.patch bytes offset [0, 0]).length = bytes.length := Bytes.patch_length fits
  have none : 0 < 0x80000000 := by decide
  have word := continued_toNat none (blank.symm ▸ short)
  -- The checksum is what the other words lack to all ones.
  rw [verifies, stamp_eq fits, ofBytes, continued, onesSum_patch none short fits even, ofBytes, word,
    fold_add_complement]
  rfl

end NetworkLayer.Checksum
