import NetworkLayer.Address
import NetworkLayer.Proofs.Bytes

/-! Addresses as fields of byte strings. -/

namespace NetworkLayer.Address

variable {family : Family}

/-- An address takes the bytes of its family's width. -/
@[simp] theorem octets_length (address : Address family) :
    address.octets.length = family.bits / 8 := by
  simp [octets]

/-- An IPv4 address is four bytes. -/
theorem octets_quad (address : Address .v4) :
    ∃ first second third fourth, address.octets = [first, second, third, fourth] :=
  ⟨_, _, _, _, rfl⟩

/-- The octets of a family hold exactly its addresses. -/
theorem octets_capacity (family : Family) : 1 <<< (8 * (family.bits / 8)) = family.size := by
  cases family <;> rfl

/-- The low bits of an address's own number are the address. -/
theorem ofNat_number (address : Address family) : ofNat address.number = address := by
  rcases address with ⟨number, bound⟩
  simp [ofNat, Nat.mod_eq_of_lt bound]

/-- Addresses of one number are the same. -/
theorem eq_of_number {address other : Address family} (same : address.number = other.number) :
    address = other := by
  rw [← ofNat_number address, same, ofNat_number]

/-- Octets that stand in a byte string read as their address. -/
theorem readAt_of_slice {bytes : Bytes} {offset : Nat} {address : Address family}
    (written : Bytes.slice bytes offset (family.bits / 8) = address.octets) :
    readAt bytes offset = address := by
  -- The octets spell the number, which is small enough to fit them.
  rw [readAt, written, octets, Bytes.value_ofValue, octets_capacity,
    Nat.mod_eq_of_lt address.bound, ofNat_number]

/-- An address that is read is written as the octets that it was read from. -/
theorem octets_readAt {bytes : Bytes} {offset : Nat}
    (within : offset + family.bits / 8 ≤ bytes.length) :
    (readAt bytes offset : Address family).octets = Bytes.slice bytes offset (family.bits / 8) := by
  obtain ⟨small, written⟩ := Bytes.value_exact _ (Bytes.slice_length within)
  rw [octets_capacity] at small
  rw [octets, readAt, ofNat]
  dsimp only
  rw [Nat.mod_eq_of_lt small, written]

/-- Byte strings with the same octets at an offset have the same address there. -/
theorem readAt_congr {left right : Bytes} {offset : Nat}
    (same : Bytes.slice left offset (family.bits / 8) =
      Bytes.slice right offset (family.bits / 8)) :
    (readAt left offset : Address family) = readAt right offset := by
  rw [readAt, readAt, same]

end NetworkLayer.Address
