import SourceOutline.Grammar.Quoted
import SourceOutline.Grammar.Tree

/-!
# Readers

A reader takes tokens from the front of a source and gives what they make up. The next
token is known at all times: taking one says what is expected behind it.
-/

namespace SourceOutline.Grammar

/-- A place in a source: the next token and what stands behind it. -/
structure Cursor where
  token : Token
  /-- From the next token on. -/
  here : List Char
  /-- Behind the next token. -/
  rest : List Char
  /-- The row of the next token. -/
  row : Nat
  /-- What is open behind the next token. -/
  layout : Layout
  /-- What stands in front of the next token. -/
  gap : Gap

/-- The place of a token. -/
def Cursor.ofLocated (located : Located) : Cursor :=
  ⟨located.token, located.here, located.rest, located.row, located.layout, located.gap⟩

/-- Reads from a place on. A failure tells the row of the statement that cannot be read,
once that is known. -/
abbrev Reader (α : Type) := StateT Cursor (Except (Option Nat)) α

namespace Reader

/-- Nothing that fits stands here. -/
def fail {α : Type} : Reader α := throw none

/-- The next token. -/
def peek : Reader Token := return (← get).token

/-- The next token is this operator, separator or bracket. -/
def atMark (text : String) : Reader Bool := return (← get).token == .mark text

/-- The next token is this word. -/
def atWord (text : String) : Reader Bool := return (← get).token == .word text

/-- The next token is one of these operators, separators and brackets. -/
def atMarks (texts : List String) : Reader Bool := do
  match (← get).token with
  | .mark text => return texts.contains text
  | _ => return false

/-- The next token is one of these words. -/
def atWords (texts : List String) : Reader Bool := do
  match (← get).token with
  | .word text => return texts.contains text
  | _ => return false

/-- Goes on with the first token of a text that starts at a row. Gives that row, or the row
on which the line goes on if it is continued. -/
def resume (expect : Expect) (rest : List Char) (row : Nat) : Reader Nat := do
  let located := next expect (← get).layout rest row {}
  set (Cursor.ofLocated located)
  return located.gap.continued.getD row

/-- Takes the next token. -/
def take (expect : Expect) : Reader Tree := do
  let cursor ← get
  return .token (← resume expect cursor.rest cursor.row)

/-- Takes this operator, separator or bracket. -/
def takeMark (text : String) (expect : Expect) : Reader Tree := do
  if ← atMark text then take expect else fail

/-- Takes this word. -/
def takeWord (text : String) (expect : Expect) : Reader Tree := do
  if ← atWord text then take expect else fail

/-- Takes a name. -/
def takeName (expect : Expect) : Reader (List Char × Tree) := do
  match ← peek with
  | .word text =>
    if isName text then
      let tree ← take expect
      return (text.toList, tree)
    else fail
  | _ => fail

/-- Takes this token. -/
def takeToken (token : Token) (expect : Expect) : Reader Tree := do
  if (← peek) == token then take expect else fail

/-- Takes the end of a line or block, which holds no code. A line that is continued behind it
is a part of what stands around. -/
def takeEnd (token : Token) (expect : Expect) : Reader (List Tree) := do
  let _ ← takeToken token expect
  return (← get).gap.continued.toList.map Tree.token

/-- Goes on reading at a place inside a string. -/
def moveTo (rest : List Char) (row : Nat) : Reader Unit :=
  modify fun cursor => { cursor with rest := rest, row := row }

/-- Repeats a reader until it gives nothing. The fuel bounds the number of tokens. -/
def many {α : Type} (step : Reader (Option α)) : Nat → Reader (List α)
  | 0 => fail
  | fuel + 1 => do
    match ← step with
    | none => return []
    | some item => return item :: (← many step fuel)

/-- The first reader, or the second from the same place when the first fails. -/
def either {α : Type} (first second : Reader α) : Reader α := fun cursor =>
  match first cursor with
  | .ok result => .ok result
  | .error _ => second cursor

/-- Failures inside are failures of the statement that starts here. -/
def located {α : Type} (reader : Reader α) : Reader α := fun cursor =>
  match reader cursor with
  | .error none => .error (some cursor.row)
  | result => result

end Reader

end SourceOutline.Grammar
