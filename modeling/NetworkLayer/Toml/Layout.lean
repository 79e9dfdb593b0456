import NetworkLayer.Toml.Statement

/-!
The layout of a written TOML document: a section for each table, its header above its own values,
and an empty line between two sections. Arrays of two or more items have a line for each.
-/

namespace NetworkLayer.Toml

namespace Value

/-- Whether a value is a table. -/
def isTable : Value → Bool
  | table _ => true
  | _ => false

/-- Whether a value has sections of its own. -/
def isSection : Value → Bool
  | table _ => true
  -- An empty array has no element that could be a section.
  | array items => !items.isEmpty && items.all isTable
  | _ => false

/-- The items of an array in brackets. -/
def bracketed : List String → String
  | [] => "[]"
  | [item] => "[" ++ item ++ "]"
  | items => "[\n" ++ String.join (items.map fun item => "    " ++ item ++ ",\n") ++ "]"

/-- A key, between double quotes unless it can do without. -/
def keyText (key : String) : String :=
  if key ≠ "" && key.toList.all isBare then key
  else String.ofList (Quoting.quote ⟨true, false⟩ key.toList)

/-- An integer in decimal. -/
def integerText (number : Int) : String :=
  (if number < 0 then "-" else "") ++ Text.decimal number.natAbs

mutual

/-- A value as it stands behind an equals sign. -/
def inline : Value → String
  | text content => quoted content
  | integer number => integerText number
  | boolean flag => if flag then "true" else "false"
  | float lexeme => lexeme
  | dateTime lexeme => lexeme
  | array items => bracketed (inlineItems items)
  | table entries => "\x7b " ++ ", ".intercalate (inlineEntries entries) ++ " \x7d"

/-- The items of an array. -/
def inlineItems : List Value → List String
  | [] => []
  | item :: rest => item.inline :: inlineItems rest

/-- The values of a table under their keys. -/
def inlineEntries : List (String × Value) → List String
  | [] => []
  | (key, value) :: rest => (keyText key ++ " = " ++ value.inline) :: inlineEntries rest

end

end Value

/-- A section of a document: its header, unless it is the top, and its lines. -/
structure Section where
  header : Option String
  lines : List String
deriving DecidableEq, Repr

namespace Section

/-- The text of a section. -/
def render (part : Section) : String :=
  String.join ((part.header.toList ++ part.lines).map (· ++ "\n"))

/-- The name of a table in a header. -/
def pathText (path : List String) : String :=
  ".".intercalate (path.map Value.keyText)

/-- The lines of the values that have no section of their own. -/
def ownLines (entries : List (String × Value)) : List String :=
  Value.inlineEntries (entries.filter fun entry => !entry.2.isSection)

end Section

mutual

/-- The sections of a value under a path; a table that only holds tables needs no header. -/
def sectionsOf (path : List String) : Value → List Section
  | .table entries =>
    let own := Section.ownLines entries
    let head : Section := ⟨some ("[" ++ Section.pathText path ++ "]"), own⟩
    -- The headers below it imply the table; an empty one would be lost.
    (if own.isEmpty && !entries.isEmpty then [] else [head]) ++ sectionsBelow path entries
  | .array items => if items.all Value.isTable then elementSections path items else []
  | _ => []

/-- The sections of the values of a table. -/
def sectionsBelow (path : List String) : List (String × Value) → List Section
  | [] => []
  | (key, value) :: rest => sectionsOf (path ++ [key]) value ++ sectionsBelow path rest

/-- The sections of the tables of an array. -/
def elementSections (path : List String) : List Value → List Section
  | [] => []
  | .table entries :: rest =>
    -- Every element needs its header, which is what counts the elements.
    ⟨some ("[[" ++ Section.pathText path ++ "]]"), Section.ownLines entries⟩ ::
      sectionsBelow path entries ++ elementSections path rest
  | _ :: rest => elementSections path rest

end

/-- The text of a document. -/
def render (entries : List (String × Value)) : String :=
  let own := Section.ownLines entries
  let top := if own.isEmpty then [] else [(⟨none, own⟩ : Section)]
  "\n".intercalate ((top ++ sectionsBelow [] entries).map Section.render)

end NetworkLayer.Toml
