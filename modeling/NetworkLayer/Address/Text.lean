import NetworkLayer.Address
import NetworkLayer.Text.Numeral
import NetworkLayer.Text.Pieces

/-!
The text of network addresses. IPv4 is four decimal octets; IPv6 is eight hexadecimal groups with
the leftmost longest run of two or more zero groups left out, and an IPv4-mapped address ends in
dotted form.
-/

namespace NetworkLayer.Address

/-- Four octets in decimal, joined by dots. -/
def renderDotted (number : Nat) : String :=
  ".".intercalate ((Bytes.ofValue 4 number).map fun octet => Text.decimal octet.toNat)

/-- The eight 16-bit groups of an IPv6 address. -/
def groups (address : Address .v6) : List Nat :=
  (List.range 8).map fun index => address.number >>> (16 * (7 - index)) % 65536

/-- Length of the run of zeros at the front. -/
def zeroRun (groups : List Nat) : Nat :=
  (groups.takeWhile (· == 0)).length

/-- Start and length of the leftmost longest run of zeros, counting positions from `start`. -/
def longestZeroRun (start : Nat) : List Nat → Nat × Nat
  | [] => (start, 0)
  | group :: rest =>
    let later := longestZeroRun (start + 1) rest
    let here := zeroRun (group :: rest)
    -- Of two runs of one length the left one wins.
    if later.2 > here then later else (start, here)

/-- Hexadecimal groups joined by colons. -/
def renderGroups (groups : List Nat) : String :=
  ":".intercalate (groups.map (Text.hex 1))

/-- The text of an IPv6 address. -/
def renderColons (address : Address .v6) : String :=
  -- Of the addresses with an IPv4 tail only the mapped ones show it.
  if address.number >>> 32 == 0xFFFF then "::ffff:" ++ renderDotted address.number
  else
    let groups := address.groups
    let (start, length) := longestZeroRun 0 groups
    if length < 2 then renderGroups groups
    else renderGroups (groups.take start) ++ "::" ++ renderGroups (groups.drop (start + length))

/-- The text of an address. -/
def render {family : Family} (address : Address family) : String :=
  match family with
  | .v4 => renderDotted address.number
  | .v6 => renderColons address

/-- A decimal octet of one to three digits without a zero in front. -/
def octet? (text : List Char) : Option Nat :=
  if text.length ≤ 3 ∧ (text.length = 1 ∨ text.head? ≠ some '0') then
    (Text.digits? 10 text).filter (· < 256)
  else none

/-- The number that numerals spell in the given base, most significant first. -/
def joined (base : Nat) (numerals : List Nat) : Nat :=
  numerals.foldl (fun sum numeral => sum * base + numeral) 0

/-- Four octets joined by dots. -/
def dotted? (text : List Char) : Option Nat := do
  let octets ← (text.splitOn '.').mapM octet?
  if octets.length = 4 then some (joined 256 octets) else none

/-- A hexadecimal group of one to four digits. -/
def group? (text : List Char) : Option Nat :=
  if text.length ≤ 4 then Text.digits? 16 text else none

/-- The groups of a list of texts, the last of which may be an IPv4 address in place of two. -/
def groupsOf? : List (List Char) → Option (List Nat)
  | [] => some []
  | [last] =>
    match group? last with
    | some group => some [group]
    -- The four octets stand for the two groups that they fill.
    | none => (dotted? last).map fun number => [number / 65536, number % 65536]
  | text :: rest => do return (← group? text) :: (← groupsOf? rest)

/-- The colon-separated groups of a text; the empty text has none. -/
def colonGroups? (text : List Char) : Option (List Nat) :=
  if text.isEmpty then some [] else groupsOf? (text.splitOn ':')

/-- Eight groups, or fewer around one `::` that stands for at least one zero group. -/
def colons? (text : List Char) : Option Nat :=
  match Text.cutDouble ':' text with
  | none => do
    let groups ← colonGroups? text
    if groups.length = 8 then some (joined 65536 groups) else none
  | some (before, after) => do
    -- An IPv4 tail ends the address, so it cannot stand in front of the double colon.
    let head ← if before.isEmpty then some [] else (before.splitOn ':').mapM group?
    let tail ← colonGroups? after
    -- The double colon stands for one group at least.
    if head.length + tail.length ≤ 7 then
      some (joined 65536
        (head ++ List.replicate (8 - head.length - tail.length) 0 ++ tail))
    else none

/-- Reads the text of an address. -/
def parse? (family : Family) (text : List Char) : Option (Address family) :=
  match family with
  | .v4 => (dotted? text).map ofNat
  | .v6 => (colons? text).map ofNat

end NetworkLayer.Address
