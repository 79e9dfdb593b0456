/-! Numerals as text: digits of a base, read with or without a sign and written to a width. -/

namespace NetworkLayer.Text

/-- The value of a digit of the given base (at most 16), in either case. -/
def digit? (base : Nat) (c : Char) : Option Nat :=
  let value :=
    if '0' ≤ c ∧ c ≤ '9' then some (c.toNat - '0'.toNat)
    else if 'a' ≤ c ∧ c ≤ 'f' then some (c.toNat - 'a'.toNat + 10)
    else if 'A' ≤ c ∧ c ≤ 'F' then some (c.toNat - 'A'.toNat + 10)
    else none
  value.filter (· < base)

/-- The number that one or more digits spell. -/
def digits? (base : Nat) (text : List Char) : Option Nat :=
  if text.isEmpty then none
  else text.foldl
    (fun sum c => do return (← sum) * base + (← digit? base c)) (some 0)

/-- A number below `limit`, written with digits after at most one plus sign. -/
def unsigned? (base limit : Nat) (text : List Char) : Option Nat :=
  let digits := match text with
    | '+' :: rest => rest
    | _ => text
  (digits? base digits).filter (· < limit)

/-- The lower-case hexadecimal digits of a number, with zeros in front up to `width` digits. -/
def hex (width number : Nat) : String :=
  let digits := Nat.toDigits 16 number
  String.ofList (List.replicate (width - digits.length) '0' ++ digits)

/-- The decimal digits of a number. -/
def decimal (number : Nat) : String :=
  String.ofList (Nat.toDigits 10 number)

end NetworkLayer.Text
