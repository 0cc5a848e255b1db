import SourceOutline.Grammar.Annotation
import SourceOutline.Grammar.DottedName

/-!
# Statements of one line

Words such as `print` or `type` start a statement of their own only where no expression
can be read.
-/

namespace SourceOutline.Grammar

open Reader

/-- The layout expected behind a complete statement. -/
def lineEnd : Expect := Follow.statement.after

/-- Operators that assign to their left side. -/
def updateMarks : List String :=
  ["+=", "-=", "*=", "/=", "@=", "//=", "%=", "**=", ">>=", "<<=", "&=", "^=", "|="]

/-- Assignments behind a left side: values, types, and further assignments. -/
def assignments (inner : Inner) : Nat → Sequence → Reader (List Tree)
  | 0, _ => fail
  | fuel + 1, left => do
    if (← atMark "=") || (← atMarks updateMarks) then
      if !left.isTarget then fail
      let mark ← take {}
      let right ← yieldOrSequence inner fuel .statement
      return mark :: right.parts ++ (← assignments inner fuel right)
    else if ← atMark ":" then
      if !left.isTarget then fail
      let colon ← take {}
      let type ← inner.annotation .statement
      if ← atMark "=" then
        let mark ← take {}
        let right ← yieldOrSequence inner fuel .statement
        return colon :: type :: mark :: right.parts ++ (← assignments inner fuel right)
      else return [colon, type]
    else return []

/-- An expression or assignment. -/
def expressionStatement (inner : Inner) (fuel : Nat) : Reader Tree := do
  let left ← yieldOrSequence inner fuel .statement
  match ← assignments inner fuel left with
  | [] => return .expression left.parts
  | rest => return .expression [.group (left.parts ++ rest)]

/-- One imported module with its local name. -/
def importItem (expect : Expect) (fuel : Nat) : Reader (List Char × List Tree) := do
  let (name, tree) ← dottedName expect fuel
  if ← atWord "as" then
    let word ← take {}
    return (name, [tree, word, (← takeName expect).2])
  else return (name, [tree])

/-- Imported modules with commas between them. A comma may end the list. -/
def importItems (expect : Expect) : Nat → Reader (List (List Char) × List Tree)
  | 0 => fail
  | fuel + 1 => do
    let (name, parts) ← importItem expect fuel
    if ← atMark "," then
      let comma ← take expect
      match ← peek with
      | .word _ =>
        let (names, rest) ← importItems expect fuel
        return (name :: names, parts ++ comma :: rest)
      | _ => return ([name], parts ++ [comma])
    else return ([name], parts)

/-- An import statement over some rows. -/
def importTree (statement : Import) (row : Nat) (parts : List Tree) : Tree :=
  .importing statement row ((codeEndOfList? parts).getD row)

/-- Imports whole modules. -/
def importStatement (fuel : Nat) : Reader Tree := do
  let row := (← get).row
  let _ ← takeWord "import" {}
  let (names, parts) ← importItems lineEnd fuel
  return importTree (.modules names) row parts

/-- Points in front of a relative module name. -/
def leadingDot? : Reader (Option Tree) := do
  if ← atMarks [".", "..."] then return some (← take {}) else return none

/-- The module whose names are imported. -/
def importSource (fuel : Nat) : Reader Import := do
  let dots ← many leadingDot? fuel
  if !dots.isEmpty && (← atWord "import") then return .relative none
  else
    let (name, _) ← dottedName {} fuel
    if !dots.isEmpty then return .relative (some name)
    else if name == "__future__".toList then return .future
    else return .members name

/-- Imports names of a module. -/
def fromStatement (fuel : Nat) : Reader Tree := do
  let row := (← get).row
  let _ ← takeWord "from" {}
  let statement ← importSource fuel
  let _ ← takeWord "import" {}
  if (← atMark "*") && statement != .future then
    return importTree statement row [← take lineEnd]
  else if ← atMark "(" then
    let _ ← take {}
    let _ ← importItems Follow.bracketed.after fuel
    return importTree statement row [← takeMark ")" lineEnd]
  else
    let (_, parts) ← importItems lineEnd fuel
    return importTree statement row parts

/-- Names with commas between them. -/
def nameList : Nat → Reader (List Tree)
  | 0 => fail
  | fuel + 1 => do
    let (_, name) ← takeName lineEnd
    if ← atMark "," then
      let comma ← take {}
      return name :: comma :: (← nameList fuel)
    else return [name]

/-- Expressions, if any stand here. -/
def optionalSequence (inner : Inner) (fuel : Nat) : Reader (List Tree) := do
  if startsExpression (← peek) then return (← sequence inner fuel .statement).parts
  else return []

/-- A `raise` with its exception and cause. -/
def raiseStatement (inner : Inner) (fuel : Nat) : Reader Tree := do
  let word ← takeWord "raise" lineEnd
  let raised ← optionalSequence inner fuel
  if ← atWord "from" then
    let marker ← take {}
    let cause ← inner.expression .statement
    return .group (word :: raised ++ [marker, cause.tree])
  else return .group (word :: raised)

/-- A `print` with its values, which may follow a file. -/
def printStatement (inner : Inner) (fuel : Nat) : Reader Tree := do
  let word ← takeWord "print" lineEnd
  if ← atMark ">>" then
    let mark ← take {}
    let values ← sequence inner fuel .statement
    return .group (word :: mark :: values.parts)
  else
    let values ← sequence inner fuel .statement
    return .group (word :: values.parts)

/-- An `exec` of a string or name, in given name spaces. -/
def execStatement (inner : Inner) (fuel : Nat) : Reader Tree := do
  let word ← takeWord "exec" lineEnd
  let code ←
    match ← peek with
    | .quote _ => do pure (Tree.string (← stringLiteral inner fuel lineEnd))
    | _ => do pure (← takeName lineEnd).2
  if ← atWord "in" then
    let marker ← take {}
    return .group (word :: code :: marker :: (← strictSequence inner .statement fuel))
  else return .group [word, code]

/-- A `type` with a name and its meaning. -/
def typeStatement (inner : Inner) : Reader Tree := do
  let word ← takeWord "type" lineEnd
  let left ← inner.annotation {}
  let equals ← takeMark "=" {}
  let right ← inner.annotation .statement
  return .group [word, left, equals, right]

/-- An expression statement that ends where a statement may end. -/
def closedExpression (inner : Inner) (fuel : Nat) : Reader Tree := do
  let tree ← expressionStatement inner fuel
  if (← peek) == .newline || (← atMark ";") then return tree else fail

/-- One statement of a line. -/
def simpleStatement (inner : Inner) (fuel : Nat) : Reader Tree := do
  match ← peek with
  | .word "import" => importStatement fuel
  | .word "from" => fromStatement fuel
  | .word "pass" | .word "break" | .word "continue" => return .group [← take lineEnd]
  | .word "return" =>
    let word ← take lineEnd
    return .group (word :: (← optionalSequence inner fuel))
  | .word "del" =>
    let word ← take {}
    return .group (word :: (← sequence inner fuel .statement).parts)
  | .word "assert" =>
    let word ← take {}
    return .group (word :: (← strictSequence inner .statement fuel))
  | .word "global" | .word "nonlocal" =>
    let word ← take {}
    return .group (word :: (← nameList fuel))
  | .word "raise" => raiseStatement inner fuel
  | .word "print" => either (closedExpression inner fuel) (printStatement inner fuel)
  | .word "exec" => either (closedExpression inner fuel) (execStatement inner fuel)
  | .word "type" => either (closedExpression inner fuel) (typeStatement inner)
  | _ => expressionStatement inner fuel

/-- The next statement of a line behind a semicolon, if there is one. -/
def nextStatement? (inner : Inner) (fuel : Nat) : Reader (Option (List Tree)) := do
  if ← atMark ";" then
    let mark ← take lineEnd
    if (← peek) == .newline then return some [mark]
    else return some [mark, ← simpleStatement inner fuel]
  else return none

/-- Statements up to the end of their line or block. -/
structure Suite where
  /-- The statements. -/
  body : List Tree
  /-- The line that is continued behind the end, if there is one. -/
  behind : List Tree

/-- The statements and what stands behind them. -/
def Suite.parts (suite : Suite) : List Tree := suite.body ++ suite.behind

/-- The first statement of a line, the statements behind it and the end of the line. -/
def lineFrom (inner : Inner) (fuel : Nat) (boundary : Expect) (first : Tree) : Reader Suite := do
  let rest ← many (nextStatement? inner fuel) fuel
  return ⟨first :: rest.flatten, ← takeEnd .newline boundary⟩

/-- The statements of a line. -/
def simpleLine (inner : Inner) (fuel : Nat) (boundary : Expect) : Reader Suite := do
  lineFrom inner fuel boundary (← simpleStatement inner fuel)

end SourceOutline.Grammar
