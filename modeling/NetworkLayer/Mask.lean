import NetworkLayer.Address

/-!
Addresses as words of 128 bits, which serve both families, and the masks of their first bits. An
IPv4 address fills the low 32 bits of its word.
-/

namespace NetworkLayer

namespace Family

variable {family : Family}

/-- Every address fits the word. -/
theorem bits_le (family : Family) : family.bits ≤ 128 := by
  cases family <;> decide

/-- No family has more addresses than the word has values. -/
theorem size_le (family : Family) : family.size ≤ Family.v6.size := by
  cases family <;> decide

/-- The word with the bits of every address of the family. -/
def wholeMask (family : Family) : BitVec 128 := BitVec.allOnes 128 >>> (128 - family.bits)

/-- The word with the first `length` bits of an address; a longer length means the width. -/
def mask (family : Family) (length : Nat) : BitVec 128 :=
  let length := min length family.bits
  -- The empty mask comes first, since the shift below would leave the word.
  if length = 0 then 0
  else family.wholeMask &&& ~~~(1#128 <<< (family.bits - length) - 1#128)

/-- The mask of the whole width has the bits of an address. -/
theorem getLsbD_wholeMask (place : Nat) :
    family.wholeMask.getLsbD place = decide (place < family.bits) := by
  have fits := family.bits_le
  rw [wholeMask, BitVec.getLsbD_ushiftRight, BitVec.getLsbD_allOnes, decide_eq_decide]
  omega

/-- A power of two less one has the bits below it. -/
theorem getLsbD_below (hosts place : Nat) : (1#128 <<< hosts - 1#128).getLsbD place =
    (decide (place < 128) && decide (place < hosts)) := by
  -- It is the complement of the word with all bits from there on.
  rw [← BitVec.not_neg, ← BitVec.shiftLeft_neg, BitVec.neg_one_eq_allOnes, BitVec.getLsbD_not,
    BitVec.getLsbD_shiftLeft, BitVec.getLsbD_allOnes, Bool.eq_iff_iff]
  simp
  omega

/-- The mask has the bits of an address but those behind its first `length`. -/
theorem getLsbD_mask (length place : Nat) : (family.mask length).getLsbD place =
    (decide (family.bits - min length family.bits ≤ place) && decide (place < family.bits)) := by
  have fits := family.bits_le
  rw [mask]
  -- The empty mask has no bits, and any other one those that the shift leaves.
  split
  case isTrue empty =>
    rw [empty, Nat.sub_zero]
    simp
  case isFalse filled =>
    rw [BitVec.getLsbD_and, BitVec.getLsbD_not, getLsbD_wholeMask, getLsbD_below,
      Bool.eq_iff_iff]
    simp
    omega

end Family

namespace Address

variable {family : Family}

/-- The address as a word. -/
def word (address : Address family) : BitVec 128 := BitVec.ofNat 128 address.number

/-- The address in the low bits of a word. -/
def ofWord (word : BitVec 128) : Address family := ofNat word.toNat

/-- The word of an address has its number. -/
@[simp] theorem toNat_word (address : Address family) : address.word.toNat = address.number := by
  rw [word, BitVec.toNat_ofNat]
  exact Nat.mod_eq_of_lt (Nat.lt_of_lt_of_le address.bound family.size_le)

/-- A bit that is set in an address stands within its width. -/
theorem lt_bits_of_testBit {address : Address family} {place : Nat}
    (set : address.number.testBit place = true) : place < family.bits := by
  -- An address is below its size, and so below the power that such a bit would bring.
  refine Nat.lt_of_not_le fun out => ?_
  have small : address.number < 2 ^ place := by
    refine Nat.lt_of_lt_of_le address.bound ?_
    rw [Family.size, Nat.one_shiftLeft]
    exact Nat.pow_le_pow_right (by decide) out
  rw [Nat.testBit_lt_two_pow small] at set
  cases set

/-- A bit of the word is that bit of the number. -/
theorem getLsbD_word (address : Address family) (place : Nat) :
    address.word.getLsbD place = address.number.testBit place := by
  rw [← BitVec.testBit_toNat, toNat_word]

/-- Outside of the mask an address shows its host bits. -/
theorem toNat_and_not_mask (address : Address family) (length : Nat) :
    (address.word &&& ~~~family.mask length).toNat =
      address.number % family.span (min length family.bits) := by
  have fits := family.bits_le
  -- Bit by bit: the host bits are those that the mask leaves out.
  refine Nat.eq_of_testBit_eq fun place => ?_
  rw [BitVec.testBit_toNat, BitVec.getLsbD_and, BitVec.getLsbD_not, Family.getLsbD_mask,
    getLsbD_word, Family.span, Nat.one_shiftLeft, Nat.testBit_mod_two_pow]
  cases bit : address.number.testBit place with
  | false => simp
  | true =>
    have inside := lt_bits_of_testBit bit
    rw [Bool.eq_iff_iff]
    simp
    omega

/-- Under the mask an address loses its host bits. -/
theorem toNat_and_mask (address : Address family) (length : Nat) :
    (address.word &&& family.mask length).toNat =
      address.number - address.number % family.span (min length family.bits) := by
  refine Nat.eq_of_testBit_eq fun place => ?_
  rw [BitVec.testBit_toNat, BitVec.getLsbD_and, Family.getLsbD_mask, getLsbD_word, Family.span,
    Nat.one_shiftLeft, ← Nat.mul_div_self_eq_mod_sub_self, Nat.testBit_two_pow_mul,
    Nat.testBit_div_two_pow]
  -- What is left of the address and put back in place is the bits from the hosts on.
  by_cases above : family.bits - min length family.bits ≤ place
  · rw [Nat.sub_add_cancel above]
    cases bit : address.number.testBit place with
    | false => simp
    | true => simp [above, lt_bits_of_testBit bit]
  · simp [above]

/-- The host bits are clear exactly if the number is a multiple of the span. -/
theorem and_not_mask_eq_zero_iff (address : Address family) {length : Nat}
    (fits : length ≤ family.bits) :
    address.word &&& ~~~family.mask length = 0 ↔ address.number % family.span length = 0 := by
  rw [← BitVec.toNat_inj, toNat_and_not_mask, Nat.min_eq_left fits]
  rfl

/-- A word that fits the family is the number of its address. -/
theorem number_ofWord {word : BitVec 128} (fits : word.toNat < family.size) :
    (ofWord word : Address family).number = word.toNat :=
  Nat.mod_eq_of_lt fits

/-- An address under a mask is that of its number without the host bits. -/
theorem number_ofWord_and_mask (address : Address family) (length : Nat) :
    (ofWord (address.word &&& family.mask length) : Address family).number =
      address.number - address.number % family.span (min length family.bits) := by
  rw [← toNat_and_mask]
  refine number_ofWord ?_
  rw [toNat_and_mask]
  exact Nat.lt_of_le_of_lt (Nat.sub_le _ _) address.bound

end Address

end NetworkLayer
