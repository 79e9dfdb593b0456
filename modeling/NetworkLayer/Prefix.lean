import NetworkLayer.Address.Text
import NetworkLayer.Error
import NetworkLayer.Mask
import NetworkLayer.Text.Blank

/-!
Network prefixes: the addresses that share their first bits. A prefix is kept with all of its
host bits zero, so each network has one representation.
-/

namespace NetworkLayer

/-- An address with a length of significant bits, and no bit set past it. -/
structure Prefix (family : Family) where
  address : Address family
  length : Nat
  length_le : length ≤ family.bits
  aligned : address.number % family.span length = 0
deriving DecidableEq

namespace Prefix

variable {family : Family}

/-- The prefix of the given length, if it fits the width and no bit past it is set. -/
def ofAddress? (address : Address family) (length : Nat) : Option (Prefix family) :=
  if fits : length ≤ family.bits ∧ address.word &&& ~~~family.mask length = 0 then
    some ⟨address, length, fits.1, (address.and_not_mask_eq_zero_iff fits.1).mp fits.2⟩
  else none

/-- The prefix of the given length that contains an address; a longer length means the width. -/
def containing (address : Address family) (length : Nat) : Prefix family where
  address := .ofWord (address.word &&& family.mask length)
  length := min length family.bits
  length_le := Nat.min_le_right _ _
  aligned := by
    rw [Address.number_ofWord_and_mask]
    exact Nat.sub_mod_eq_zero_of_mod_eq (Nat.mod_mod _ _).symm

/-- The prefix that holds one address. -/
def host (address : Address family) : Prefix family :=
  ⟨address, family.bits, Nat.le_refl _, by simp [Family.span, Nat.mod_one]⟩

/-- Whether an address starts with the prefix's bits. -/
def contains (net : Prefix family) (address : Address family) : Bool :=
  address.word &&& family.mask net.length == net.address.word

/-- The address with exactly the host bits set. -/
def hostMask (net : Prefix family) : Address family :=
  .ofWord (~~~family.mask net.length &&& family.wholeMask)

/-- The highest address; for IPv4 the directed broadcast. -/
def directedBroadcast (net : Prefix family) : Address family :=
  .ofWord (net.address.word ||| net.hostMask.word)

/-- The prefix of the loopback interface, `127.0.0.0/8` or `::1/128`. -/
def loopback (family : Family) : Prefix family :=
  match family with
  | .v4 => containing (Address.loopback .v4) 8
  | .v6 => host (Address.loopback .v6)

/-- Address and length joined by a slash. -/
def render (net : Prefix family) : String :=
  net.address.render ++ "/" ++ Text.decimal net.length

/-- The refusal of an address and a length that make no prefix. -/
def refusal (address : Address family) (length : Nat) : Error :=
  .invalidPrefix address.render length

end Prefix

/-- An address text with an optional length: what stands before and after the first slash. -/
structure Cidr (family : Family) where
  address : Address family
  length : Option Nat

namespace Cidr

variable {family : Family}

/-- The length that counts: a missing one is the whole width. -/
def significant (cidr : Cidr family) : Nat :=
  cidr.length.getD family.bits

/-- Reads an address and a length that fits its width; blanks may surround both. -/
def parse (family : Family) (text : String) : Except Error (Cidr family) :=
  let (addressText, lengthText) := match Text.cut '/' text.toList with
    | some (before, after) => (before, some after)
    | none => (text.toList, none)
  match Address.parse? family (Text.trim addressText) with
  | none => .error (.addressText family (String.ofList addressText))
  | some address =>
    match lengthText with
    | none => .ok ⟨address, none⟩
    | some digits =>
      -- The refusal shows the text as it stands, blanks included.
      match Text.unsigned? 10 256 (Text.trim digits) with
      | none => .error (.prefixLengthText (String.ofList digits))
      | some length =>
        -- The number is read first, so that 300 and 129 are refused in different words.
        if length ≤ family.bits then .ok ⟨address, some length⟩
        else .error (Prefix.refusal address length)

end Cidr

namespace Prefix

variable {family : Family}

/-- The prefix of the given length, or the refusal. -/
def checked (address : Address family) (length : Nat) : Except Error (Prefix family) :=
  match ofAddress? address length with
  | some net => .ok net
  | none => .error (refusal address length)

/-- Reads a prefix; without a length it holds one address. -/
def parse (family : Family) (text : String) : Except Error (Prefix family) := do
  let cidr ← Cidr.parse family text
  checked cidr.address cidr.significant

end Prefix

end NetworkLayer
