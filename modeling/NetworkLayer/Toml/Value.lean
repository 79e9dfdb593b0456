/-! The values that a TOML document holds. -/

namespace NetworkLayer.Toml

/-- A TOML value; floats and date-times stay as they are written. -/
inductive Value
  | text (text : String)
  | integer (number : Int)
  | boolean (flag : Bool)
  | float (lexeme : String)
  | dateTime (lexeme : String)
  | array (items : List Value)
  | table (entries : List (String × Value))

instance : Inhabited Value := ⟨.table []⟩

namespace Value

/-- The text of a text. -/
def text? : Value → Option String
  | text content => some content
  | _ => none

/-- The number of an integer in a range that starts at zero. -/
def natural? (limit : Nat) : Value → Option Nat
  | integer number => if 0 ≤ number && number < limit then some number.toNat else none
  | _ => none

/-- The flag of a boolean. -/
def boolean? : Value → Option Bool
  | boolean flag => some flag
  | _ => none

/-- The items of an array, each read in the same way. -/
def list? {α : Type} (read : Value → Option α) : Value → Option (List α)
  | array items => items.mapM read
  | _ => none

/-- The fields of a record by name: a table names them, and an array has them in the given order.
A date-time is a record without any of these fields. -/
def record? (names : List String) : Value → Option (String → Option Value)
  | table entries => some (List.lookup · entries)
  -- Fields past the end of the array are missing.
  | array items => some (List.lookup · (names.zip items))
  | dateTime _ => some fun _ => none
  | _ => none

/-- The name of a variant: a text, or the only key of a table that has nothing under it. -/
def variant? : Value → Option String
  | text name => some name
  | table [(name, array [])] => some name
  | table [(name, table [])] => some name
  | _ => none

end Value

end NetworkLayer.Toml
