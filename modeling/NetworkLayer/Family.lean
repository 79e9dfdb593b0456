/-! The two address families and the width of their addresses. -/

namespace NetworkLayer

/-- An address family. -/
inductive Family
  | v4
  | v6
deriving DecidableEq, Repr, Inhabited

namespace Family

/-- Width of an address in bits. -/
def bits : Family → Nat
  | v4 => 32
  | v6 => 128

/-- Number of addresses of the family. -/
def size (family : Family) : Nat := 1 <<< family.bits

/-- There are addresses. -/
theorem size_pos (family : Family) : 0 < family.size := by
  cases family <;> decide

/-- Number of addresses that share their first `length` bits. -/
def span (family : Family) (length : Nat) : Nat := 1 <<< (family.bits - length)

/-- An address shares them with itself. -/
theorem span_pos (family : Family) (length : Nat) : 0 < family.span length := by
  rw [span, Nat.one_shiftLeft]
  exact Nat.two_pow_pos _

/-- The word for the family in messages. -/
def label : Family → String
  | v4 => "ipv4"
  | v6 => "ipv6"

end Family

end NetworkLayer
