import SourceOutline.Grammar.DottedName
import SourceOutline.Grammar.Interpolation

/-!
# Patterns of a case
-/

namespace SourceOutline.Grammar

open Reader

/-- Patterns behind the first, up to the closing bracket. -/
def patternsTail (inner : Inner) (closer : String) : Nat → Reader (List Tree)
  | 0 => fail
  | fuel + 1 => do
    if ← atMark "," then
      let comma ← take Follow.bracketed.after
      if ← atMark closer then return [comma]
      else return comma :: (← inner.casePattern .bracketed) :: (← patternsTail inner closer fuel)
    else return []

/-- Patterns in brackets. -/
def bracketedPatterns (inner : Inner) (opener closer : String) (fuel : Nat) (expect : Expect) :
    Reader Tree := do
  let first ← takeMark opener Follow.bracketed.after
  let inside ← if ← atMark closer then pure [] else do
    let pattern ← inner.casePattern .bracketed
    pure (pattern :: (← patternsTail inner closer fuel))
  let last ← takeMark closer expect
  return .group (first :: inside ++ [last])

/-- A number, or two of them with a sign between. -/
def numberPattern (expect : Expect) : Reader Tree := do
  let sign ← if ← atMark "-" then (do return [← take {}]) else pure []
  let first ← takeToken .number expect
  if ← atMarks ["+", "-"] then
    let operator ← take {}
    let second ← takeToken .number expect
    return .group (sign ++ [first, operator, second])
  else return .group (sign ++ [first])

/-- A pattern without alternatives. -/
def simplePattern (inner : Inner) (entries : Reader (List Tree)) (fuel : Nat) (expect : Expect) :
    Reader Tree := do
  match ← peek with
  | .mark "*" | .mark "**" =>
    let stars ← take {}
    return .group [stars, (← takeName expect).2]
  | .mark "[" => bracketedPatterns inner "[" "]" fuel expect
  | .mark "(" => bracketedPatterns inner "(" ")" fuel expect
  | .mark "\x7b" =>
    let first ← take Follow.bracketed.after
    let inside ← if ← atMark "\x7d" then pure [] else entries
    let last ← takeMark "\x7d" expect
    return .group (first :: inside ++ [last])
  | .quote _ => stringLiterals inner fuel expect
  | .number | .mark "-" => numberPattern expect
  | .word text =>
    if ["True", "False", "None"].contains text then take expect
    else
      let (_, name) ← dottedName expect fuel
      if ← atMark "(" then
        return .group [name, ← bracketedPatterns inner "(" ")" fuel expect]
      else return name
  | _ => fail

/-- Alternatives behind the first. -/
def alternatives (simple : Reader Tree) : Nat → Reader (List Tree)
  | 0 => fail
  | fuel + 1 => do
    if ← atMark "|" then
      let bar ← take {}
      return bar :: (← simple) :: (← alternatives simple fuel)
    else return []

/-- Entries of a dictionary pattern. -/
def patternEntries (inner : Inner) : Nat → Reader (List Tree)
  | 0 => fail
  | fuel + 1 => do
    let first ← entryOf fuel
    if ← atMark "," then
      let comma ← take Follow.bracketed.after
      if ← atMark "\x7d" then return [first, comma]
      else return first :: comma :: (← patternEntries inner fuel)
    else return [first]
where
  entryOf (fuel : Nat) : Reader Tree := do
    if ← atMarks ["*", "**"] then
      let stars ← take {}
      return .group [stars, (← takeName Follow.bracketed.after).2]
    else
      let simple := simplePattern inner (patternEntries inner fuel) fuel {}
      let first ← simple
      let others ← alternatives simple fuel
      let colon ← takeMark ":" {}
      let value ← inner.casePattern .bracketed
      return .group (first :: others ++ [colon, value])

/-- Names given to a pattern. -/
def captures (expect : Expect) : Reader (Option Tree) := do
  if ← atWord "as" then
    let word ← take {}
    return some (.group [word, (← takeName expect).2])
  else return none

/-- The pattern is one token. -/
def isSingle : Tree → Bool
  | .group [.token _] => true
  | _ => false

/-- A pattern of a case: alternatives, or a keyword with its pattern, and names for it. -/
def casePattern (inner : Inner) (fuel : Nat) (follow : Follow) : Reader Tree := do
  let expect := follow.after
  let simple := simplePattern inner (patternEntries inner fuel) fuel expect
  let named := (← get).token matches .word _
  let first ← simple
  let rest ←
    if named && isSingle first && (← atMark "=") then do
      let equals ← take {}
      pure [equals, ← simple]
    else pure []
  let others ← alternatives simple fuel
  let names ← many (captures expect) fuel
  return .group (first :: rest ++ others ++ names)

end SourceOutline.Grammar
