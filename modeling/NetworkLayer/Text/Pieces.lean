/-! Text cut at marks. -/

namespace NetworkLayer.Text

/-- The text before and after the first `mark`, if there is one. -/
def cut (mark : Char) : List Char → Option (List Char × List Char)
  | [] => none
  | c :: rest =>
    if c = mark then some ([], rest)
    else (cut mark rest).map fun (before, after) => (c :: before, after)

/-- The text before and after the first two equal marks in a row, if there are any. -/
def cutDouble (mark : Char) : List Char → Option (List Char × List Char)
  | [] => none
  | [_] => none
  | c :: d :: rest =>
    if c = mark ∧ d = mark then some ([], rest)
    else (cutDouble mark (d :: rest)).map fun (before, after) => (c :: before, after)

end NetworkLayer.Text
