import NetworkLayer.Toml.Number
import NetworkLayer.Toml.Quoted
import NetworkLayer.Toml.Table

/-! The statements of a TOML document: values under keys, and headers of tables. -/

namespace NetworkLayer.Toml

/-- A statement of a document. -/
inductive Statement
  | assign (assignment : Assignment)
  /-- The header of a table. -/
  | table (path : List String)
  /-- The header of the next element of an array of tables. -/
  | element (path : List String)

/-- Arrays and tables in braces nest at most so deep. -/
def deepestNesting : Nat := 79

/-- Keys have at most so many parts. -/
def longestKey : Nat := 79

/-- Whether a character may stand in a key without quotes. -/
def isBare (c : Char) : Bool :=
  c.isAlphanum || c = '-' || c = '_'

namespace Reader

/-- Takes blanks. -/
def blanks : Reader Unit := do
  let _ ← span fun c => c = ' ' || c = '\t'

/-- Takes a part of a key. -/
def keyPart : Reader String :=
  (do return String.ofList (← quotedLine?)) <|> do
    let bare ← span isBare
    if bare.isEmpty then failure else return String.ofList bare

/-- Takes what follows the first item of a list with marks between its items, at most so many. -/
def more {α : Type} (mark : Char) (item : Reader α) : Nat → Reader (List α)
  | 0 => return []
  | count + 1 =>
    (do char mark; return (← item) :: (← more mark item count)) <|> return []

/-- Takes one or more items with marks between them. -/
def separated {α : Type} (mark : Char) (item : Reader α) : Reader (List α) := do
  let first ← item
  return first :: (← more mark item (← get).length)

/-- Takes something with blanks around it. -/
def padded {α : Type} (item : Reader α) : Reader α := do
  blanks
  let item ← item
  blanks
  return item

/-- Takes a key. -/
def key : Reader (List String) := do
  let path ← separated '.' (padded keyPart)
  -- Each part of a key is one level of nesting.
  if path.length ≤ longestKey then return path else failure

/-- Skips blanks, line ends and comments; a comment ends with its line. -/
def skipGap (comment : Bool) : List Char → Option (List Char)
  -- A comment needs its line end here, since the bracket is still to come.
  | [] => if comment then none else some []
  | '\n' :: rest => skipGap false rest
  | '\r' :: '\n' :: rest => skipGap false rest
  | c :: rest =>
    if comment then if isPlain c then skipGap true rest else none
    else if c = ' ' || c = '\t' then skipGap false rest
    else if c = '#' then skipGap true rest
    else some (c :: rest)

/-- Takes what may stand between the items of an array. -/
def gap : Reader Unit := fun text => (skipGap false text).map ((), ·)

/-- Takes an array behind its bracket. -/
def items (item : Reader Value) : Reader (List Value) := do
  let entry := do
    gap
    let value ← item
    gap
    return value
  let values ← (do
    let values ← separated ',' entry
    -- A comma may stand behind the last item.
    let _ ← optional (char ',')
    return values) <|> return []
  gap
  char ']'
  return values

/-- Takes a value under a key, with `value` for the value. -/
def assignment (value : Reader Value) : Reader Assignment := do
  let path ← key
  char '='
  return ⟨path, ← padded value⟩

/-- Takes a table in braces behind its brace. -/
def entries (value : Reader Value) : Reader Entries := do
  let assignments ← separated ',' (assignment value) <|> return []
  blanks
  char '}'
  StateT.lift (Entries.ofAssignments assignments)

/-- Takes a text, a boolean, a number or a date-time. -/
def scalar : Reader Value :=
  (do return .text (String.ofList (← quoted?))) <|>
    (do word "true".toList; return .boolean true) <|>
    (do word "false".toList; return .boolean false) <|>
    Number.value

/-- Takes a value with at most so many brackets and braces around its parts. -/
def value : Nat → Reader Value
  -- Deeper brackets are not read at all, so the document is refused.
  | 0 => scalar
  | depth + 1 =>
    (do char '['; return .array (← items (value depth))) <|>
      (do char '{'; return .table (Item.valuesOf (← entries (value depth)))) <|> scalar

/-- Takes the rest of a line, which may hold a comment. -/
def endOfLine : Reader Unit := do
  blanks
  let _ ← optional do
    char '#'
    let _ ← span isPlain
  fun text => if text.isEmpty then some ((), []) else (lineEnd? text).map ((), ·)

/-- Takes a statement, or a line without one. -/
def statement : Reader (Option Statement) := do
  blanks
  -- An empty line and a line with only a comment say nothing.
  (do endOfLine; return none) <|>
    (do
      char '['
      char '['
      let path ← key
      char ']'
      char ']'
      endOfLine
      return some (.element path)) <|>
    (do
      char '['
      let path ← key
      char ']'
      endOfLine
      return some (.table path)) <|>
    do
      let assignment ← assignment (value deepestNesting)
      endOfLine
      return some (.assign assignment)

/-- Reads statements, on at most so many lines. -/
def statements : Nat → List Char → Option (List Statement)
  | _, [] => some []
  | 0, _ => none
  | lines + 1, text => do
    let (first, rest) ← statement text
    return first.toList ++ (← statements lines rest)

end Reader

end NetworkLayer.Toml
