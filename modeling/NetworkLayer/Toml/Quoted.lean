import NetworkLayer.Text.Numeral

/-!
Quoted text. There are four ways to quote: with escapes or literally, on one line or on many. A
reader goes over the characters one by one, and the writer picks the way that needs no escapes.
-/

namespace NetworkLayer.Toml

/-- A way to quote. -/
structure Quoting where
  /-- Whether a backslash begins an escape; the quote is then a double one. -/
  escapes : Bool
  /-- Whether the text may run over lines; three quotes then stand at each end. -/
  multiline : Bool
deriving DecidableEq, Repr

namespace Quoting

/-- The quote. -/
def mark (quoting : Quoting) : Char := if quoting.escapes then '"' else '\''

/-- What stands at each end. -/
def delimiter (quoting : Quoting) : List Char :=
  List.replicate (if quoting.multiline then 3 else 1) quoting.mark

end Quoting

/-- Whether a character may stand for itself on a line. -/
def isPlain (c : Char) : Bool :=
  c = '\t' || (0x20 ≤ c.toNat && c.toNat ≠ 0x7F)

/-- Where a reader of quoted text is. -/
inductive QuotedState
  | plain
  /-- Behind so many quotes, which may be text or the end. -/
  | quotes (count : Nat)
  /-- Behind a carriage return, which may be inside a fold. -/
  | carriage (folding : Bool)
  /-- Behind a backslash. -/
  | escape
  /-- Behind a backslash and blanks; a fold has passed a line end. -/
  | fold (passed : Bool)
  /-- Inside a character code, so many digits before its end. -/
  | code (left value : Nat)
deriving DecidableEq, Repr

/-- What a reader of quoted text does with a character. -/
inductive QuotedStep
  /-- It takes the character, which adds to the text. -/
  | go (text : List Char) (state : QuotedState)
  /-- The text ends with the character. -/
  | stop (text : List Char)
  /-- The text has ended before the character. -/
  | stopBefore (text : List Char)
  | fail

namespace Quoting

/-- The character behind a backslash, if one character names it. -/
def named? : Char → Option Char
  | 'b' => some '\x08'
  | 't' => some '\t'
  | 'n' => some '\n'
  | 'f' => some '\x0c'
  | 'r' => some '\r'
  | '"' => some '"'
  | '\\' => some '\\'
  | _ => none

/-- The character of a code. -/
def ofCode? (code : Nat) : Option Char :=
  if code.isValidChar then some (Char.ofNat code) else none

/-- What a reader does outside escapes, behind text that is still to be added. -/
def stepPlain (quoting : Quoting) (before : List Char) (c : Char) : QuotedStep :=
  if c = quoting.mark then if quoting.multiline then .go before (.quotes 1) else .stop before
  else if c = '\\' && quoting.escapes then .go before .escape
  else if c = '\n' && quoting.multiline then .go (before ++ ['\n']) .plain
  else if c = '\r' && quoting.multiline then .go before (.carriage false)
  else if isPlain c then .go (before ++ [c]) .plain
  else .fail

/-- What a reader does behind a backslash: a name, a code, or a fold over line ends. -/
def stepEscape (quoting : Quoting) (c : Char) : QuotedStep :=
  match named? c with
  | some named => .go [named] .plain
  | none =>
    if c = 'u' then .go [] (.code 4 0)
    else if c = 'U' then .go [] (.code 8 0)
    else if !quoting.multiline then .fail
    else if c = ' ' || c = '\t' then .go [] (.fold false)
    else if c = '\n' then .go [] (.fold true)
    else if c = '\r' then .go [] (.carriage true)
    else .fail

/-- What a reader does with a digit of a character code. -/
def stepCode (left value : Nat) (c : Char) : QuotedStep :=
  match Text.digit? 16 c with
  | none => .fail
  | some digit =>
    let value := value * 16 + digit
    -- Codes of surrogates and codes past the last character name nothing.
    if left ≤ 1 then ((ofCode? value).map fun c => .go [c] .plain).getD .fail
    else .go [] (.code (left - 1) value)

/-- What a reader does with a character. Up to two quotes in a row are text, also right before the
end. -/
def step (quoting : Quoting) : QuotedState → Char → QuotedStep
  | .plain, c => quoting.stepPlain [] c
  | .quotes count, c =>
    if c = quoting.mark then
      -- Five quotes end the text for sure: two of it and three behind it.
      if count < 4 then .go [] (.quotes (count + 1)) else .stop [quoting.mark, quoting.mark]
    else if count < 3 then quoting.stepPlain (List.replicate count quoting.mark) c
    else .stopBefore (List.replicate (count - 3) quoting.mark)
  | .carriage folding, c =>
    if c ≠ '\n' then .fail else if folding then .go [] (.fold true) else .go ['\n'] .plain
  | .escape, c => quoting.stepEscape c
  | .fold passed, c =>
    if c = ' ' || c = '\t' then .go [] (.fold passed)
    else if c = '\n' then .go [] (.fold true)
    else if c = '\r' then .go [] (.carriage true)
    -- A fold has to pass a line end, or the backslash stood before a mere blank.
    else if passed then quoting.stepPlain [] c
    else .fail
  | .code left value, c => stepCode left value c

/-- Reads quoted text from a state to its end: the text, and what is behind the quotes. -/
def read (quoting : Quoting) : QuotedState → List Char → Option (List Char × List Char)
  | .quotes count, [] =>
    if 3 ≤ count then some (List.replicate (count - 3) quoting.mark, []) else none
  | _, [] => none
  | state, c :: rest =>
    match quoting.step state c with
    | .go text next => (quoting.read next rest).map fun (more, rest) => (text ++ more, rest)
    | .stop text => some (text, rest)
    | .stopBefore text => some (text, c :: rest)
    | .fail => none

/-- The escape of a character that cannot stand for itself between double quotes. -/
def escape? (multiline : Bool) (c : Char) : Option (List Char) :=
  if c = '\\' then some ['\\', '\\']
  else if c = '\x08' then some ['\\', 'b']
  else if c = '\t' then some ['\\', 't']
  else if c = '\n' then if multiline then none else some ['\\', 'n']
  else if c = '\x0c' then some ['\\', 'f']
  else if c = '\r' then some ['\\', 'r']
  else if c.toNat < 0x20 || c.toNat = 0x7F then
    some (['\\', 'u'] ++ ((Text.hex 4 c.toNat).map Char.toUpper).toList)
  else none

/-- Text between double quotes, behind so many quotes in a row: the third one in a row is escaped,
and on a single line every one. -/
def escaped (multiline : Bool) : Nat → List Char → List Char
  | _, [] => []
  | run, c :: rest =>
    if c = '"' then
      -- Three in a row would end the text.
      if multiline && run < 2 then '"' :: escaped multiline (run + 1) rest
      else '\\' :: '"' :: escaped multiline 0 rest
    else (escape? multiline c).getD [c] ++ escaped multiline 0 rest

/-- Length of the longest run of a character. -/
def longestRun (mark : Char) (text : List Char) : Nat :=
  (text.foldl (fun (run, longest) c =>
    let run := if c = mark then run + 1 else 0
    (run, max run longest)) (0, 0)).2

/-- The way to quote a text: the first that needs no escapes out of a single line between double
quotes, a single literal line, and the same two on many lines; else double quotes. -/
def choose (text : List Char) : Quoting :=
  let controls := text.any fun c => c ≠ '\n' && !isPlain c
  let lines := text.contains '\n'
  let backslash := text.contains '\\'
  let double := longestRun '"' text
  let single := longestRun '\'' text
  if !controls && !backslash && double = 0 && !lines then ⟨true, false⟩
  else if !controls && single = 0 && !lines then ⟨false, false⟩
  else if !controls && !backslash && double ≤ 2 then ⟨true, true⟩
  else if !controls && single ≤ 2 then ⟨false, true⟩
  else ⟨true, lines⟩

/-- A text quoted in some way; if it has line ends it begins on a line of its own. -/
def quote (quoting : Quoting) (text : List Char) : List Char :=
  -- That first line end does not belong to the text, so nothing is lost by it.
  let opening := if quoting.multiline && text.contains '\n' then ['\n'] else []
  let body := if quoting.escapes then escaped quoting.multiline 0 text else text
  quoting.delimiter ++ opening ++ body ++ quoting.delimiter

end Quoting

/-- A quoted text. -/
def quoted (text : String) : String :=
  String.ofList ((Quoting.choose text.toList).quote text.toList)

/-- A line end, LF alone or behind CR, taken off the front of a text. -/
def lineEnd? : List Char → Option (List Char)
  | '\n' :: rest => some rest
  | '\r' :: '\n' :: rest => some rest
  | _ => none

/-- Reads text quoted on one line, if a quote is in front. -/
def quotedLine? : List Char → Option (List Char × List Char)
  | '"' :: rest => Quoting.read ⟨true, false⟩ .plain rest
  | '\'' :: rest => Quoting.read ⟨false, false⟩ .plain rest
  | _ => none

/-- Reads text quoted in any way; a line end right behind three quotes does not belong to it. -/
def quoted? : List Char → Option (List Char × List Char)
  | '"' :: '"' :: '"' :: rest => Quoting.read ⟨true, true⟩ .plain ((lineEnd? rest).getD rest)
  | '\'' :: '\'' :: '\'' :: rest =>
    Quoting.read ⟨false, true⟩ .plain ((lineEnd? rest).getD rest)
  | text => quotedLine? text

end NetworkLayer.Toml
