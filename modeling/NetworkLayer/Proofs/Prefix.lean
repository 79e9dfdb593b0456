import Mathlib.Algebra.Group.Nat.Defs
import NetworkLayer.Prefix
import NetworkLayer.Proofs.Address

/-!
Prefixes as intervals of numbers. Main statement: a prefix contains exactly the addresses from its own to the highest
one, which are those that share its first bits, and two prefixes are nested or have no address in common.
-/

namespace NetworkLayer

variable {family : Family}

namespace Family

/-- The spans divide the number of all addresses. -/
theorem span_dvd_size (family : Family) (length : Nat) : family.span length ∣ family.size := by
  rw [span, size, Nat.one_shiftLeft, Nat.one_shiftLeft]
  exact Nat.pow_dvd_pow 2 (Nat.sub_le _ _)

/-- A length beyond the width means the width. -/
@[simp] theorem mask_min (family : Family) (length : Nat) :
    family.mask (min length family.bits) = family.mask length := by
  rw [mask, mask, Nat.min_assoc, Nat.min_self]

end Family

namespace Address

/-- The bit at a place counted from the front; there is none behind the width. -/
def leadingBit (address : Address family) (place : Nat) : Bool :=
  (BitVec.ofNat family.bits address.number).getMsbD place

/-- The places from the front and those of the number run against each other. -/
theorem leadingBit_eq (address : Address family) (place : Nat) : address.leadingBit place =
    (decide (place < family.bits) && address.number.testBit (family.bits - 1 - place)) := by
  rw [leadingBit, BitVec.getMsbD, BitVec.getLsbD_ofNat]
  by_cases inside : place < family.bits
  · have below : family.bits - 1 - place < family.bits := by omega
    simp [inside, below]
  · simp [inside]

/-- Addresses are the same under a mask if their first bits are. -/
theorem and_mask_eq_iff {address other : Address family} {length : Nat} :
    other.word &&& family.mask length = address.word &&& family.mask length ↔
      ∀ place < length, address.leadingBit place = other.leadingBit place := by
  -- Bit by bit: place counts from the left, and a bit of the word from the right.
  rw [← BitVec.toNat_inj]
  constructor
  · intro same place early
    rw [leadingBit_eq, leadingBit_eq]
    by_cases inside : place < family.bits
    · have bit := congrArg (·.testBit (family.bits - 1 - place)) same
      have kept : family.bits - min length family.bits ≤ family.bits - 1 - place := by omega
      have below : family.bits - 1 - place < family.bits := by omega
      simp only [BitVec.testBit_toNat, BitVec.getLsbD_and, Family.getLsbD_mask, getLsbD_word, kept,
        below, decide_true, Bool.and_true] at bit
      rw [bit]
    · -- Places beyond the width are false in every address.
      simp [inside]
  · intro same
    refine Nat.eq_of_testBit_eq fun place => ?_
    simp only [BitVec.testBit_toNat, BitVec.getLsbD_and, Family.getLsbD_mask, getLsbD_word]
    by_cases kept : family.bits - min length family.bits ≤ place ∧ place < family.bits
    · have bit := same (family.bits - 1 - place) (by omega)
      have inside : family.bits - 1 - place < family.bits := by omega
      have back : family.bits - 1 - (family.bits - 1 - place) = place := by omega
      simp only [leadingBit_eq, inside, decide_true, Bool.true_and, back] at bit
      rw [bit]
    · -- A bit that the mask clears is false on both sides.
      rw [← Bool.decide_and, decide_eq_false kept, Bool.and_false, Bool.and_false]

end Address

namespace Prefix

variable {net : Prefix family} {address : Address family}

/-- A prefix contains the addresses that without their host bits are its own. -/
theorem contains_eq (net : Prefix family) (address : Address family) : net.contains address =
    (address.number - address.number % family.span net.length == net.address.number) := by
  rw [contains, Bool.eq_iff_iff, beq_iff_eq, beq_iff_eq, ← BitVec.toNat_inj,
    Address.toNat_and_mask, Nat.min_eq_left net.length_le, Address.toNat_word]

/-- Prefixes of one length that share an address are the same. -/
theorem eq_of_contains {one other : Prefix family} {address : Address family}
    (same : one.length = other.length) (inOne : one.contains address)
    (inOther : other.contains address) : one = other := by
  -- The first bits of the shared address are the address of either prefix.
  have first := eq_of_beq (one.contains_eq address ▸ inOne)
  have second := eq_of_beq (other.contains_eq address ▸ inOther)
  rw [same] at first
  rcases one with ⟨⟨number, _⟩, length, _, _⟩
  rcases other with ⟨⟨another, _⟩, _, _, _⟩
  cases same
  cases first.symm.trans second
  rfl

/-- The host mask is the number of the last host. -/
theorem number_hostMask (net : Prefix family) :
    net.hostMask.number = family.span net.length - 1 := by
  have fits := family.bits_le
  have within := net.length_le
  -- The bits that the mask leaves are the lowest, and these are all set.
  have bits : (~~~family.mask net.length &&& family.wholeMask).toNat = family.span net.length - 1 := by
    refine Nat.eq_of_testBit_eq fun place => ?_
    rw [BitVec.testBit_toNat, BitVec.getLsbD_and, BitVec.getLsbD_not, Family.getLsbD_mask,
      Family.getLsbD_wholeMask, Nat.min_eq_left within, Family.span, Nat.one_shiftLeft,
      Nat.testBit_two_pow_sub_one, Bool.eq_iff_iff]
    simp
    omega
  rw [hostMask, Address.number_ofWord, bits]
  rw [bits]
  have positive := family.span_pos net.length
  have most := Nat.le_of_dvd family.size_pos (family.span_dvd_size net.length)
  omega

/-- The whole span of a prefix is a range of addresses. -/
theorem number_add_span_le (net : Prefix family) :
    net.address.number + family.span net.length ≤ family.size := by
  -- Both are multiples of the span.
  obtain ⟨before, number⟩ := Nat.dvd_of_mod_eq_zero net.aligned
  obtain ⟨all, size⟩ := family.span_dvd_size net.length
  have below := net.address.bound
  rw [number, size] at below
  rw [number, size, ← Nat.mul_succ]
  exact Nat.mul_le_mul_left _ (Nat.lt_of_mul_lt_mul_left below)

/-- A host part beside the bits of a prefix counts up from its address. -/
theorem toNat_or (net : Prefix family) {host : BitVec 128}
    (below : host.toNat < family.span net.length) :
    (net.address.word ||| host).toNat = net.address.number + host.toNat := by
  obtain ⟨before, number⟩ := Nat.dvd_of_mod_eq_zero net.aligned
  rw [BitVec.toNat_or, Address.toNat_word, number]
  rw [Family.span, Nat.one_shiftLeft] at below ⊢
  exact (Nat.two_pow_add_eq_or_of_lt below before).symm

/-- An address with a host part is that many addresses on. -/
theorem number_ofWord_or (net : Prefix family) {host : BitVec 128}
    (below : host.toNat < family.span net.length) :
    (Address.ofWord (net.address.word ||| host) : Address family).number =
      net.address.number + host.toNat := by
  have counted := net.toNat_or below
  have most := net.number_add_span_le
  rw [Address.number_ofWord, counted]
  omega

/-- The highest address ends the span. -/
theorem number_directedBroadcast (net : Prefix family) :
    net.directedBroadcast.number = net.address.number + (family.span net.length - 1) := by
  have positive := family.span_pos net.length
  rw [directedBroadcast, number_ofWord_or, Address.toNat_word, number_hostMask]
  rw [Address.toNat_word, number_hostMask]
  omega

/-- The addresses of a prefix are those from its own to the highest one. -/
theorem contains_iff_interval (net : Prefix family) (address : Address family) :
    net.contains address ↔
      net.address.number ≤ address.number ∧ address.number ≤ net.directedBroadcast.number := by
  have positive := family.span_pos net.length
  have aligned := net.aligned
  -- An address is in the prefix if clearing its host bits gives the own address, which is aligned.
  rw [contains_eq, beq_iff_eq, number_directedBroadcast]
  constructor
  · intro first
    have hosts := Nat.mod_lt address.number positive
    have less := Nat.mod_le address.number (family.span net.length)
    omega
  · -- Whatever is counted from the own address up to the last host is a host number, and clearing takes it
    -- away.
    rintro ⟨least, most⟩
    obtain ⟨host, counted⟩ := Nat.exists_eq_add_of_le least
    have small : host < family.span net.length := by omega
    rw [counted, Nat.add_mod, aligned, Nat.zero_add, Nat.mod_mod, Nat.mod_eq_of_lt small]
    omega

/-- The address of the prefix around an address is what the mask leaves of it. -/
theorem word_containing (address : Address family) (length : Nat) :
    (containing address length).address.word = address.word &&& family.mask length := by
  rw [← BitVec.toNat_inj, Address.toNat_word, Address.toNat_and_mask]
  exact address.number_ofWord_and_mask length

/-- The prefix around an address contains the addresses with the same first bits. -/
theorem containing_contains_iff (address other : Address family) (length : Nat) :
    (containing address length).contains other ↔
      ∀ place < length, address.leadingBit place = other.leadingBit place := by
  rw [contains, beq_iff_eq, word_containing, ← Address.and_mask_eq_iff]
  change other.word &&& family.mask (min length family.bits) = _ ↔ _
  rw [Family.mask_min]

/-- An address without host bits is the one of the prefix around it. -/
theorem containing_address_eq_iff (address : Address family) {length : Nat}
    (fits : length ≤ family.bits) : (containing address length).address = address ↔
      address.number % family.span length = 0 := by
  -- Clearing the host bits takes away the number of the host, so nothing is lost exactly if that is zero.
  have number := address.number_ofWord_and_mask length
  rw [Nat.min_eq_left fits] at number
  have less := Nat.mod_le address.number (family.span length)
  constructor
  · intro same
    have whole : (containing address length).address.number = address.number :=
      congrArg Address.number same
    change (Address.ofWord _ : Address family).number = _ at whole
    omega
  · intro aligned
    rw [aligned, Nat.sub_zero] at number
    exact Address.eq_of_number number

/-- A prefix is the one of its length around each of its addresses. -/
theorem eq_containing (inside : net.contains address) : net = containing address net.length :=
  eq_of_contains (Nat.min_eq_left net.length_le).symm inside
    ((containing_contains_iff ..).mpr fun _ _ => rfl)

/-- A prefix is the one around its own address. -/
theorem containing_self (net : Prefix family) : containing net.address net.length = net :=
  (eq_containing ((net.contains_iff_interval _).mpr
    ⟨Nat.le_refl _, net.number_directedBroadcast ▸ Nat.le_add_right _ _⟩)).symm

/-- A shorter prefix contains all of a longer one with which it shares an address. -/
theorem contains_of_shared {one other : Prefix family} (shorter : one.length ≤ other.length)
    (inOne : one.contains address) (inOther : other.contains address) (further : Address family)
    (there : other.contains further) : one.contains further := by
  rw [eq_containing inOne, containing_contains_iff]
  rw [eq_containing inOther, containing_contains_iff] at there
  exact fun place early => there place (Nat.lt_of_lt_of_le early shorter)

/-- A prefix is made of an address and a length exactly if the length fits and the prefix around
the address has it for its own. -/
theorem checked_eq (address : Address family) (length : Nat) :
    checked address length =
      if length ≤ family.bits ∧ (containing address length).address = address then
        .ok (containing address length)
      else .error (refusal address length) := by
  rw [checked, ofAddress?]
  -- The code compares the host bits with zero, which says that the address is its own prefix.
  by_cases exact : length ≤ family.bits ∧ address.word &&& ~~~family.mask length = 0
  · have own : (containing address length).address = address :=
      (containing_address_eq_iff address exact.1).mpr
        ((address.and_not_mask_eq_zero_iff exact.1).mp exact.2)
    rw [dif_pos exact, if_pos ⟨exact.1, own⟩]
    exact congrArg Except.ok (containing_self _).symm
  · rw [dif_neg exact, if_neg fun ⟨fits, own⟩ => exact ⟨fits,
      (address.and_not_mask_eq_zero_iff fits).mpr ((containing_address_eq_iff address fits).mp own)⟩]

/-- A prefix is made of its own address and length, and of no others. -/
theorem checked_eq_ok_iff {length : Nat} :
    checked address length = .ok net ↔ address = net.address ∧ length = net.length := by
  -- A prefix that was made keeps the given address, and the other way it is the one around its own address.
  rw [checked_eq]
  constructor
  · intro made
    split at made
    · rename_i exact
      cases made
      exact ⟨exact.2.symm, (Nat.min_eq_left exact.1).symm⟩
    · cases made
  · rintro ⟨rfl, rfl⟩
    rw [containing_self, if_pos ⟨net.length_le, rfl⟩]

/-- A prefix has none of the bits of its host mask. -/
theorem word_and_hostMask (net : Prefix family) : net.address.word &&& net.hostMask.word = 0 := by
  have aligned := net.aligned
  rw [Family.span, Nat.one_shiftLeft] at aligned
  rw [← BitVec.toNat_inj, BitVec.toNat_and, Address.toNat_word, Address.toNat_word, number_hostMask,
    Family.span, Nat.one_shiftLeft, Nat.and_two_pow_sub_one_eq_mod, aligned]
  rfl

/-- Two prefixes have no address in common, or one of them contains all of the other. -/
theorem disjoint_or_nested (one other : Prefix family) :
    (∀ address, ¬ (one.contains address ∧ other.contains address)) ∨
      (∀ address, one.contains address → other.contains address) ∨
      ∀ address, other.contains address → one.contains address := by
  by_cases shared : ∃ address, one.contains address ∧ other.contains address
  · obtain ⟨address, inOne, inOther⟩ := shared
    -- The longer of the two is inside.
    rcases Nat.le_total one.length other.length with shorter | shorter
    · exact .inr (.inr (contains_of_shared shorter inOne inOther))
    · exact .inr (.inl (contains_of_shared shorter inOther inOne))
  · exact .inl fun address both => shared ⟨address, both⟩

/-- Prefixes are the aligned intervals of addresses: the prefix around an address contains what lies between its two
ends, which is what has the same first bits; an address and a length make a prefix if the length fits and masking
changes nothing; and two prefixes are apart or nested. -/
theorem aligned_intervals (family : Family) :
    (∀ (address other : Address family) (length : Nat),
      ((containing address length).contains other ↔
        (containing address length).address.number ≤ other.number ∧
          other.number ≤ (containing address length).directedBroadcast.number) ∧
      ((containing address length).contains other ↔
        ∀ place < length, address.leadingBit place = other.leadingBit place)) ∧
    (∀ net : Prefix family, 2 ^ (family.bits - net.length) ∣ net.address.number ∧
      net.directedBroadcast.number = net.address.number + (2 ^ (family.bits - net.length) - 1)) ∧
    (∀ (address : Address family) (length : Nat), checked address length =
      if length ≤ family.bits ∧ (containing address length).address = address then
        .ok (containing address length)
      else .error (refusal address length)) ∧
    ∀ one other : Prefix family,
      (∀ address, ¬ (one.contains address ∧ other.contains address)) ∨
        (∀ address, one.contains address → other.contains address) ∨
        ∀ address, other.contains address → one.contains address := by
  refine ⟨fun address other length => ⟨contains_iff_interval _ other,
    containing_contains_iff address other length⟩, fun net => ?_, checked_eq, disjoint_or_nested⟩
  rw [← Nat.one_shiftLeft, ← Family.span]
  exact ⟨Nat.dvd_of_mod_eq_zero net.aligned, net.number_directedBroadcast⟩

end Prefix

end NetworkLayer
