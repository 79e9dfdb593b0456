import NetworkLayer.Address.Text
import NetworkLayer.Proofs.Address
import NetworkLayer.Proofs.Numeral
import NetworkLayer.Proofs.Pieces

/-! Numbers in dotted form. Main statement: the dotted form of a number reads back as its low 32 bits. -/

namespace NetworkLayer.Address

/-- The numeral of an octet reads back. -/
theorem octet?_toDigits {octet : Nat} (small : octet < 256) :
    octet? (Nat.toDigits 10 octet) = some octet := by
  have all : ∀ octet < 256, (Nat.toDigits 10 octet).length ≤ 3 ∧
      ((Nat.toDigits 10 octet).length = 1 ∨ (Nat.toDigits 10 octet).head? ≠ some '0') := by
    decide +kernel
  rw [octet?, if_pos (all octet small), Text.digits?_toDigits (by decide) (by decide), Option.filter_some,
    if_pos (by simpa using small)]

/-- The numerals of octets read back. -/
theorem mapM_octet? (octets : Bytes) :
    (octets.map fun octet => Nat.toDigits 10 octet.toNat).mapM octet? =
      some (octets.map UInt8.toNat) := by
  induction octets with
  | nil => rfl
  | cons octet rest ih =>
    simp only [List.map_cons, List.mapM_cons, octet?_toDigits octet.toNat_lt, ih]
    rfl

/-- Octets joined as numerals of base 256 are the number that the bytes spell. -/
theorem joined_octets (octets : Bytes) : joined 256 (octets.map UInt8.toNat) = octets.value := by
  rw [joined, List.foldl_map, Bytes.value]

/-- Dotted octets are numerals joined by dots. -/
theorem toList_renderDotted (number : Nat) : (renderDotted number).toList =
    ['.'].intercalate ((Bytes.ofValue 4 number).map fun octet => Nat.toDigits 10 octet.toNat) := by
  have numerals : (String.toList ∘ fun octet : UInt8 => Text.decimal octet.toNat) =
      fun octet => Nat.toDigits 10 octet.toNat := funext fun octet => Text.toList_decimal octet.toNat
  rw [renderDotted, String.toList_intercalate, List.map_map, numerals]
  rfl

/-- Dotted octets read back as the number. -/
theorem dotted?_renderDotted (number : Nat) :
    dotted? (renderDotted number).toList = some (number % 0x100000000) := by
  -- A decimal numeral has no dot, so the text falls apart between the octets.
  have plain : ∀ numeral ∈ (Bytes.ofValue 4 number).map fun octet => Nat.toDigits 10 octet.toNat,
      '.' ∉ numeral := by
    intro numeral listed dot
    obtain ⟨octet, -, rfl⟩ := List.mem_map.mp listed
    have digit := Text.digit?_of_mem_toDigits (by decide) (by decide) dot
    revert digit
    decide
  rw [dotted?, toList_renderDotted, List.splitOn_intercalate '.' plain (by simp [Bytes.ofValue]),
    mapM_octet?]
  simp [joined_octets, Bytes.value_ofValue]

/-- Dotted octets have digits and dots. -/
theorem mem_renderDotted {number : Nat} {c : Char} (listed : c ∈ (renderDotted number).toList) :
    c = '.' ∨ (Text.digit? 10 c).isSome := by
  rw [toList_renderDotted] at listed
  refine (Text.mem_intercalate listed).imp_right fun ⟨numeral, among, there⟩ => ?_
  obtain ⟨octet, -, rfl⟩ := List.mem_map.mp among
  exact Text.digit?_of_mem_toDigits (by decide) (by decide) there

/-- Dotted octets have a dot. -/
theorem dot_mem_renderDotted (number : Nat) : '.' ∈ (renderDotted number).toList := by
  obtain ⟨first, second, third, fourth, four⟩ : ∃ first second third fourth,
    Bytes.ofValue 4 number = [first, second, third, fourth] := ⟨_, _, _, _, rfl⟩
  rw [toList_renderDotted, four, List.map_cons, List.map_cons, List.intercalate_cons_cons,
    List.append_assoc, List.singleton_append]
  exact List.mem_append_right _ List.mem_cons_self

end NetworkLayer.Address
