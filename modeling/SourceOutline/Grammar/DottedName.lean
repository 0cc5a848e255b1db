import SourceOutline.Grammar.Reader

/-!
# Names with points between them
-/

namespace SourceOutline.Grammar

open Reader

/-- A point and a name, with the number of characters behind them. -/
def dottedMember (expect : Expect) : Reader (Option (Tree × Nat)) := do
  if ← atMark "." then
    let dot ← take {}
    let behind := (← get).rest.length
    let (_, name) ← takeName expect
    return some (.group [dot, name], behind)
  else return none

/-- Names with points between them, and their text as written. -/
def dottedName (expect : Expect) (fuel : Nat) : Reader (List Char × Tree) := do
  let start ← get
  let (_, first) ← takeName expect
  let rest ← many (dottedMember expect) fuel
  let behind := (rest.getLast?.map (·.2)).getD start.rest.length
  return (start.here.take (start.here.length - behind), .group (first :: rest.map (·.1)))

end SourceOutline.Grammar
