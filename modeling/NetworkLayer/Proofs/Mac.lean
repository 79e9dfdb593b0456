import NetworkLayer.Mac
import NetworkLayer.Proofs.Bytes

/-! Link-layer addresses as fields of byte strings: an address and its six octets tell the same. -/

namespace NetworkLayer.Mac

/-- An address is written with six octets. -/
theorem octets_length (mac : Mac) : mac.octets.length = 6 :=
  Bytes.ofValue_length ..

/-- The octets of an address spell it. -/
theorem ofNat_value_octets (mac : Mac) : ofNat (Bytes.value mac.octets) = mac := by
  -- The number is small enough to fit its six octets.
  have small : mac.number < 1 <<< (8 * 6) := mac.bound
  rw [octets, Bytes.value_ofValue, Nat.mod_eq_of_lt small, ofNat]
  rcases mac with ⟨number, bound⟩
  simp only [Nat.mod_eq_of_lt bound]

/-- The address that six octets spell is written with them. -/
theorem octets_ofNat_value {bytes : Bytes} (six : bytes.length = 6) :
    (ofNat (Bytes.value bytes)).octets = bytes := by
  obtain ⟨small, written⟩ := Bytes.value_exact 6 six
  have bound : Bytes.value bytes < 0x1000000000000 := small
  rw [octets, ofNat]
  dsimp only
  rw [Nat.mod_eq_of_lt bound, written]

/-- Six octets are those of one address, which they spell. -/
theorem octets_eq_iff {mac : Mac} {bytes : Bytes} :
    mac.octets = bytes ↔ bytes.length = 6 ∧ ofNat (Bytes.value bytes) = mac := by
  constructor
  · rintro rfl
    exact ⟨mac.octets_length, mac.ofNat_value_octets⟩
  · rintro ⟨six, rfl⟩
    exact octets_ofNat_value six

/-- An address that is read is written as the octets that it was read from. -/
theorem octets_readAt {bytes : Bytes} {offset : Nat} (within : offset + 6 ≤ bytes.length) :
    (readAt bytes offset).octets = Bytes.slice bytes offset 6 :=
  octets_ofNat_value (Bytes.slice_length within)

end NetworkLayer.Mac
