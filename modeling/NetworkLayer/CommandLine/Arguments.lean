/-! Command-line arguments: options with a value, in any order, and what is left between them. -/

namespace NetworkLayer

/-- An option by its letter and its name; each takes a value. -/
structure OptionName where
  letter : Char
  name : String
deriving DecidableEq, Repr

/-- The arguments of a command: the values of its options by name, and the rest in order. -/
structure Arguments where
  values : List (String × String)
  rest : List String
deriving DecidableEq, Repr

namespace Arguments

/-- What an argument is. -/
inductive Shape
  /-- An option with its value. -/
  | value (name value : String)
  /-- An option whose value is the next argument. -/
  | awaits (name : String)
  /-- Behind it there are no options any more. -/
  | endOfOptions
  | plain
  | unknown
deriving DecidableEq, Repr

/-- The value that is joined to an option, with or without an equals sign behind a letter. -/
def joined (name : String) : List Char → Shape
  | [] => .awaits name
  | '=' :: value => .value name (String.ofList value)
  | value => .value name (String.ofList value)

/-- What an argument is, for a command with some options. -/
def shape (options : List OptionName) (argument : String) : Shape :=
  match argument.toList with
  | ['-', '-'] => .endOfOptions
  -- A lone hyphen names no option.
  | ['-'] => .plain
  | '-' :: '-' :: long =>
    let name := String.ofList (long.takeWhile (· ≠ '='))
    if options.any (·.name == name) then joined name (long.dropWhile (· ≠ '=')) else .unknown
  | '-' :: letter :: value =>
    match options.find? (·.letter == letter) with
    | some option => joined option.name value
    | none => .unknown
  | _ => .plain

/-- The arguments with a value of an option in front; a value is never empty. -/
def withValue (arguments : Arguments) (name value : String) : Option Arguments :=
  if value = "" || arguments.values.any (·.1 == name) then none
  else some { arguments with values := (name, value) :: arguments.values }

/-- Reads the arguments of a command with some options, each given at most once. -/
def read (options : List OptionName) : List String → Option Arguments
  | [] => some ⟨[], []⟩
  | argument :: others =>
    match shape options argument with
    | .unknown => none
    -- Behind the mark even what looks like an option is plain.
    | .endOfOptions => some ⟨[], others⟩
    | .value name value => do (← read options others).withValue name value
    | .plain => do
      let arguments ← read options others
      return { arguments with rest := argument :: arguments.rest }
    | .awaits name =>
      match others with
      | [] => none
      | value :: others => do
        -- An argument that looks like an option is never a value.
        if shape options value = .plain then (← read options others).withValue name value
        else none

/-- The value of an option, or what stands for a missing one. -/
def get (arguments : Arguments) (name standard : String) : String :=
  (arguments.values.lookup name).getD standard

end Arguments

end NetworkLayer
