import SourceOutline.Grammar.CasePattern
import SourceOutline.Grammar.SimpleStatement

/-!
# Statements with a suite

A suite is an indented block, the rest of the line, or nothing. `nested` tells that the
statement stands in a block, whose end may follow it.
-/

namespace SourceOutline.Grammar

open Reader

/-- The layout expected between statements. -/
def boundary (nested : Bool) : Expect := { dedent := nested }

/-- A suite without statements stands where its line ends. -/
def emptySuite (boundary : Expect) : Reader Suite := do
  let row := (← get).row
  return ⟨[.token row], ← takeEnd .newline boundary⟩

/-- A colon and the statements that belong to it. -/
def suite (inner : Inner) (nested : Bool) (fuel : Nat) : Reader Suite := do
  let _ ← takeMark ":" { newline := true, indent := true }
  match ← peek with
  | .indent =>
    let _ ← take (boundary true)
    let body ← inner.block
    return ⟨body, ← takeEnd .dedent (boundary nested)⟩
  | .newline => emptySuite (boundary nested)
  | _ => simpleLine inner fuel (boundary nested)

/-- A word with its suite, if the word stands here. -/
def wordSuite (inner : Inner) (nested : Bool) (fuel : Nat) (word : String) :
    Reader (List Tree) := do
  if ← atWord word then
    let marker ← take {}
    return marker :: (← suite inner nested fuel).parts
  else return []

/-- A word with a condition and its suite. -/
def conditionSuite (inner : Inner) (nested : Bool) (fuel : Nat) (word : String) :
    Reader (List Tree) := do
  let marker ← takeWord word {}
  let condition ← inner.expression {}
  return marker :: condition.tree :: (← suite inner nested fuel).parts

/-- The next `elif`, if there is one. -/
def elif? (inner : Inner) (nested : Bool) (fuel : Nat) : Reader (Option (List Tree)) := do
  if ← atWord "elif" then return some (← conditionSuite inner nested fuel "elif")
  else return none

/-- An `if` with its alternatives. -/
def ifStatement (inner : Inner) (nested : Bool) (fuel : Nat) : Reader (List Tree) := do
  let first ← conditionSuite inner nested fuel "if"
  let others ← many (elif? inner nested fuel) fuel
  return first ++ others.flatten ++ (← wordSuite inner nested fuel "else")

/-- A `for` loop. -/
def forStatement (inner : Inner) (nested : Bool) (fuel : Nat) : Reader (List Tree) := do
  let word ← takeWord "for" {}
  let targets ← loopTargets inner fuel
  let within ← takeWord "in" {}
  let values ← sequence inner fuel {}
  let body ← suite inner nested fuel
  return word :: targets ++ within :: values.parts ++ body.parts ++
    (← wordSuite inner nested fuel "else")

/-- The next handler of a `try`, if there is one. -/
def handler? (inner : Inner) (nested : Bool) (fuel : Nat) : Reader (Option (List Tree)) := do
  if ← atWord "except" then
    let word ← take {}
    let star ← if ← atMark "*" then (do return [← take {}]) else pure []
    let caught ← if ← atMark ":" then pure [] else strictSequence inner {} fuel
    return some (word :: star ++ caught ++ (← suite inner nested fuel).parts)
  else return none

/-- A `try` with its handlers. -/
def tryStatement (inner : Inner) (nested : Bool) (fuel : Nat) : Reader (List Tree) := do
  let body ← wordSuite inner nested fuel "try"
  let handlers ← many (handler? inner nested fuel) fuel
  let otherwise ← wordSuite inner nested fuel "else"
  return body ++ handlers.flatten ++ otherwise ++ (← wordSuite inner nested fuel "finally")

/-- A `with` and what it holds. -/
def withStatement (inner : Inner) (nested : Bool) (fuel : Nat) : Reader (List Tree) := do
  let word ← takeWord "with" {}
  let held ← sequence inner fuel {}
  return word :: held.parts ++ (← suite inner nested fuel).parts

/-- A function behind the row of its first word. -/
def functionDefinition (inner : Inner) (nested : Bool) (fuel row : Nat) :
    Reader (List Tree) := do
  let _ ← takeWord "def" {}
  let (name, _) ← takeName {}
  if ← atMark "[" then
    let _ ← typeParameters inner fuel {}
  let parameters ← parameters inner fuel
  if ← atMark "->" then
    let _ ← take {}
    let _ ← annotation inner false fuel {}
  let suite ← suite inner nested fuel
  return .define .function name parameters row suite.body :: suite.behind

/-- A class. -/
def classDefinition (inner : Inner) (nested : Bool) (fuel : Nat) : Reader (List Tree) := do
  let row := (← get).row
  let _ ← takeWord "class" {}
  let (name, _) ← takeName {}
  if ← atMark "[" then
    let _ ← typeParameters inner fuel {}
  if ← atMark "(" then
    let _ ← arguments inner (loopTargets inner fuel) fuel {}
  let suite ← suite inner nested fuel
  return .define .cls name [] row suite.body :: suite.behind

/-- A function, with or without `async`, or a class. -/
def definition (inner : Inner) (nested : Bool) (fuel : Nat) : Reader (List Tree) := do
  let row := (← get).row
  match ← peek with
  | .word "class" => classDefinition inner nested fuel
  | .word "async" =>
    let _ ← take {}
    functionDefinition inner nested fuel row
  | _ => functionDefinition inner nested fuel row

/-- The next decorator, if there is one. -/
def decorator? (inner : Inner) : Reader (Option Tree) := do
  if ← atMark "@" then
    let mark ← take {}
    let value ← inner.expression .statement
    let _ ← takeToken .newline {}
    return some (.group [mark, value.tree])
  else return none

/-- A definition with decorators. -/
def decorated (inner : Inner) (nested : Bool) (fuel : Nat) : Reader Tree := do
  let decorators ← many (decorator? inner) fuel
  return .group (decorators ++ (← definition inner nested fuel))

/-- The next case of a `match`, if there is one. -/
def case? (inner : Inner) (fuel : Nat) : Reader (Option (List Tree)) := do
  if ← atWord "case" then
    let word ← take {}
    let patterns ← casePatterns fuel
    let guard ←
      if ← atWord "if" then do
        let marker ← take {}
        let condition ← inner.expression {}
        pure [marker, condition.tree]
      else pure []
    return some (word :: patterns ++ guard ++ (← suite inner true fuel).parts)
  else return none
where
  casePatterns : Nat → Reader (List Tree)
    | 0 => fail
    | fuel + 1 => do
      let first ← inner.casePattern {}
      if ← atMark "," then
        let comma ← take {}
        if (← atMark ":") || (← atWord "if") then return [first, comma]
        else return first :: comma :: (← casePatterns fuel)
      else return [first]

/-- A `match` with its cases. -/
def matchStatement (inner : Inner) (nested : Bool) (fuel : Nat) : Reader (List Tree) := do
  let word ← takeWord "match" lineEnd
  let subjects ← sequence inner fuel {}
  let _ ← takeMark ":" { newline := true, indent := true }
  match ← peek with
  | .indent =>
    let _ ← take (boundary true)
    let cases ← many (case? inner fuel) fuel
    return word :: subjects.parts ++ cases.flatten ++ (← takeEnd .dedent (boundary nested))
  | .newline => return word :: subjects.parts ++ (← emptySuite (boundary nested)).parts
  | _ => fail

/-- The token behind the next one, which may end a statement. -/
def tokenBehind : Reader Token := do
  let cursor ← get
  return (next lineEnd cursor.layout cursor.rest cursor.row {}).token

/-- One statement, or the statements of one line. -/
def statement (inner : Inner) (nested : Bool) (fuel : Nat) : Reader (List Tree) := do
  match ← peek with
  | .mark "@" => return [← decorated inner nested fuel]
  | .word "def" | .word "class" => definition inner nested fuel
  | .word "if" => grouped (ifStatement inner nested fuel)
  | .word "for" => grouped (forStatement inner nested fuel)
  | .word "while" => grouped do
      let first ← conditionSuite inner nested fuel "while"
      return first ++ (← wordSuite inner nested fuel "else")
  | .word "try" => grouped (tryStatement inner nested fuel)
  | .word "with" => grouped (withStatement inner nested fuel)
  | .word "async" =>
    match ← tokenBehind with
    | .word "def" => definition inner nested fuel
    | .word "for" => grouped do
        let word ← take {}
        return word :: (← forStatement inner nested fuel)
    | .word "with" => grouped do
        let word ← take {}
        return word :: (← withStatement inner nested fuel)
    | _ => return (← simpleLine inner fuel (boundary nested)).parts
  | .word "match" =>
    either
      (do
        let first ← closedExpression inner fuel
        return (← lineFrom inner fuel (boundary nested) first).parts)
      (grouped (matchStatement inner nested fuel))
  | _ => return (← simpleLine inner fuel (boundary nested)).parts
where
  grouped (parts : Reader (List Tree)) : Reader (List Tree) := do
    return [.group (← parts)]

/-- Statements and comments up to the end of the block or source. -/
def statements (inner : Inner) (nested : Bool) : Nat → Reader (List Tree)
  | 0 => fail
  | fuel + 1 => do
    let cursor ← get
    let comments := cursor.gap.comments.map Tree.comment
    match cursor.token with
    | .finish | .dedent => return comments
    | _ =>
      let parts ← located (statement inner nested fuel)
      return comments ++ parts ++ (← statements inner nested fuel)

end SourceOutline.Grammar
