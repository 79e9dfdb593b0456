import NetworkLayer.Toml.Statement

/-! A TOML document: the table that its statements make up. -/

namespace NetworkLayer.Toml

/-- A document with some statements read: its entries, and the table that gets the next ones. -/
structure DocumentState where
  entries : Entries
  current : List String

/-- The document after one more statement. -/
def DocumentState.after (state : DocumentState) : Statement → Option DocumentState
  | .assign assignment => do
    let entries ← Entries.reach false (fun _ entries => entries.assign assignment) state.current
      .written state.entries
    return { state with entries }
  -- The path of a header starts at the top, whatever table came before.
  | .table path => do return ⟨← state.entries.openTable path, path⟩
  | .element path => do return ⟨← state.entries.openElement path, path⟩

/-- The entries of the table that statements make up. -/
def documentOf (statements : List Statement) : Option (List (String × Value)) := do
  let state ← statements.foldlM DocumentState.after ⟨[], []⟩
  return Item.valuesOf state.entries

/-- Reads a document, which may begin with a byte order mark. -/
def parse (text : String) : Option (List (String × Value)) := do
  let text := match text.toList with
    -- The mark tells the encoding and belongs to no statement.
    | '\uFEFF' :: rest => rest
    | text => text
  documentOf (← Reader.statements (text.length + 1) text)

end NetworkLayer.Toml
