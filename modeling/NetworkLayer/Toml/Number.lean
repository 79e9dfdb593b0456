import NetworkLayer.Text.Numeral
import NetworkLayer.Toml.Value

/-! Integers, floats and date-times, read off the front of a text. -/

namespace NetworkLayer.Toml

/-- A reader takes something off the front of a text, or refuses the text. -/
abbrev Reader := StateT (List Char) Option

namespace Reader

/-- Takes a character. -/
def char (c : Char) : Reader Unit := fun text =>
  match text with
  | d :: rest => if d = c then some ((), rest) else none
  | [] => none

/-- Takes a character of a class. -/
def oneOf (accept : Char → Bool) : Reader Char := fun text =>
  match text with
  | c :: rest => if accept c then some (c, rest) else none
  | [] => none

/-- Takes a word. -/
def word (expected : List Char) : Reader Unit := expected.forM char

/-- Takes as many characters of a class as there are. -/
def span (accept : Char → Bool) : Reader (List Char) := fun text =>
  some (text.takeWhile accept, text.dropWhile accept)

/-- The characters that a reader takes. -/
def lexeme (reader : Reader Unit) : Reader (List Char) := fun text => do
  let (_, rest) ← reader text
  return (text.take (text.length - rest.length), rest)

/-- Takes at most one sign, and tells whether it is a minus. -/
def sign : Reader Bool :=
  (do char '-'; return true) <|> (do char '+'; return false) <|> return false

end Reader

namespace Number

open Reader

/-- Whether digits are parted by single underscores and begin and end with a digit. -/
def wellParted : List Char → Bool
  | [] => false
  | [c] => c ≠ '_'
  -- An underscore that parts two digits has been passed by the case below.
  | '_' :: _ => false
  | _ :: '_' :: rest => wellParted rest
  | _ :: rest => wellParted rest

/-- Digits of a base, which underscores may part. -/
def digits (base : Nat) : Reader (List Char) := do
  let run ← span fun c => c = '_' || (Text.digit? base c).isSome
  if wellParted run then return run.filter (· ≠ '_') else failure

/-- Decimal digits without a zero in front of others. -/
def plainDigits : Reader (List Char) := do
  let run ← digits 10
  if run.length > 1 && run.head? = some '0' then failure else return run

/-- The number that digits spell, if it is below a limit. -/
def below (limit base : Nat) (run : List Char) : Reader Nat :=
  StateT.lift ((Text.digits? base run).filter (· < limit))

/-- A 64-bit integer in base 16, 8 or 2 without a sign, or in base 10. -/
def integer : Reader Int :=
  based 'x' 16 <|> based 'o' 8 <|> based 'b' 2 <|> do
    let negative ← sign
    let run ← plainDigits
    -- There is one more negative number than there are positive ones.
    if negative then return -(← below (1 <<< 63 + 1) 10 run)
    else return ← below (1 <<< 63) 10 run
where
  /-- An integer behind the mark of its base. -/
  based (mark : Char) (base : Nat) : Reader Int := do
    char '0'
    char mark
    return ← below (1 <<< 63) base (← digits base)

/-- Whether a positive decimal number rounds to infinity as a double: it does from halfway between
the greatest double and the next power of two on. -/
def overflows (mantissa : List Char) (exponent : Int) : Bool :=
  let run := mantissa.dropWhile (· = '0')
  let scale := exponent + run.length
  -- Numbers far from the bound are told by their scale alone.
  if run.isEmpty || scale < 300 then false
  else if 320 < scale then true
  else
    let value := (Text.digits? 10 run).getD 0
    -- The greatest double is 2^1024 - 2^971, and 2^970 is half its last place.
    let bound := 1 <<< 1024 - 1 <<< 970
    let scaled := Nat.repeat (· * 10) exponent.natAbs
    if 0 ≤ exponent then bound ≤ scaled value else scaled bound ≤ value

/-- A decimal number with a fraction, an exponent or both. -/
def decimal : Reader Unit := do
  let negative ← sign
  let whole ← plainDigits
  let fraction ← (do char '.'; digits 10) <|> return []
  let exponent ← (do return some (← exponentPart)) <|> return none
  if fraction.isEmpty && exponent.isNone then failure
  -- A negative number too great for a double is read as minus infinity.
  if !negative && overflows (whole ++ fraction) (exponent.getD 0 - fraction.length) then failure
where
  /-- The exponent behind its mark. -/
  exponentPart : Reader Int := do
    let _ ← oneOf fun c => c = 'e' || c = 'E'
    let negative ← sign
    let value : Int := (Text.digits? 10 (← digits 10)).getD 0
    return if negative then -value else value

/-- A float: a decimal number, an infinity or no number. -/
def float : Reader Unit :=
  decimal <|> do
    let _ ← sign
    word "inf".toList <|> word "nan".toList

/-- So many digits with a value in a range. -/
def field (width least most : Nat) : Reader Nat := fun text => do
  let value ← Text.digits? 10 (text.take width)
  if (text.take width).length = width && least ≤ value && value ≤ most then
    some (value, text.drop width)
  else none

/-- Number of days of a month. -/
def daysIn (year month : Nat) : Nat :=
  -- The calendar is the Gregorian one, for all years.
  let leap := year % 4 = 0 && (year % 100 ≠ 0 || year % 400 = 0)
  if month = 2 then if leap then 29 else 28
  else if month = 4 || month = 6 || month = 9 || month = 11 then 30
  else 31

/-- A date. -/
def date : Reader Unit := do
  let year ← field 4 0 9999
  char '-'
  let month ← field 2 1 12
  char '-'
  let _ ← field 2 1 (daysIn year month)

/-- A time of day; a minute may have a leap second. -/
def time : Reader Unit := do
  let _ ← field 2 0 23
  char ':'
  let _ ← field 2 0 59
  char ':'
  -- The sixtieth second is a leap second.
  let _ ← field 2 0 60
  let _ ← optional do
    char '.'
    let fraction ← span fun c => (Text.digit? 10 c).isSome
    if fraction.isEmpty then failure

/-- The distance of a local time from universal time. -/
def zone : Reader Unit :=
  (do let _ ← oneOf fun c => c = 'Z' || c = 'z') <|> do
    let _ ← oneOf fun c => c = '+' || c = '-'
    let _ ← field 2 0 23
    char ':'
    let _ ← field 2 0 59

/-- A date, a time, or both with a zone if it is known. -/
def dateTime : Reader Unit :=
  time <|> do
    date
    let _ ← optional do
      let _ ← oneOf fun c => c = 'T' || c = 't' || c = ' '
      time
      let _ ← optional zone

/-- A number or a date-time. -/
def value : Reader Value :=
  -- An integer would also take the front of a date or of a float.
  (do return .dateTime (String.ofList (← lexeme dateTime))) <|>
    (do return .float (String.ofList (← lexeme float))) <|>
    (do return .integer (← integer))

end Number

end NetworkLayer.Toml
