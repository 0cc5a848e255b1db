import SourceOutline.Grammar.Interpolation

/-!
# Brackets

Tuples, lists, sets, dictionaries, comprehensions, arguments and subscripts.
-/

namespace SourceOutline.Grammar

open Reader

/-- The closing brackets. -/
def closers : List String := [")", "]", "\x7d"]

/-- A comprehension goes on here. -/
def atClause : Reader Bool := atWords ["for", "async", "if"]

/-- The values that a clause runs over, behind the first. -/
def clauseValues (inner : Inner) : Nat → Reader (List Tree)
  | 0 => fail
  | fuel + 1 => do
    if ← atMark "," then
      let comma ← take Follow.clause.after
      if (← atClause) || !startsExpression (← peek) then return [comma]
      else
        let value ← inner.expression .clause
        return comma :: value.tree :: (← clauseValues inner fuel)
    else return []

/-- A `for` with its names and values. -/
def forClause (inner : Inner) (targets : Reader (List Tree)) (fuel : Nat) : Reader Tree := do
  let marker ← if ← atWord "async" then (do return [← take {}]) else pure []
  let word ← takeWord "for" {}
  let names ← targets
  let within ← takeWord "in" {}
  let first ← inner.expression .clause
  let rest ← clauseValues inner fuel
  return .group (marker ++ word :: names ++ within :: first.tree :: rest)

/-- The next clause of a comprehension, if there is one. -/
def clause? (inner : Inner) (targets : Reader (List Tree)) (fuel : Nat) :
    Reader (Option Tree) := do
  if ← atWord "if" then
    let word ← take {}
    let condition ← inner.expression .clause
    return some (.group [word, condition.tree])
  else if ← atClause then return some (← forClause inner targets fuel)
  else return none

/-- The clauses of a comprehension. -/
def clauses (inner : Inner) (targets : Reader (List Tree)) (fuel : Nat) : Reader (List Tree) := do
  let first ← forClause inner targets fuel
  return first :: (← many (clause? inner targets fuel) fuel)

/-- One element of a tuple, list or set. -/
def element (inner : Inner) (fuel : Nat) : Reader Operand := do
  if ← atWord "yield" then yieldExpression inner fuel .bracketed
  else if ← atMark "*" then
    let star ← take {}
    let operand ← inner.expression .bracketed
    return ⟨.group [star, operand.tree], if operand.form.isTarget then .place else .value⟩
  else inner.expression .bracketed

/-- Commas and elements behind the first, up to the closing bracket. -/
def elementsTail (inner : Inner) (closer : String) : Nat → Reader Sequence
  | 0 => fail
  | fuel + 1 => do
    if ← atMark "," then
      let comma ← take Follow.bracketed.after
      if ← atMark closer then return ⟨[comma], []⟩
      else
        let operand ← element inner fuel
        let rest ← elementsTail inner closer fuel
        return ⟨comma :: operand.tree :: rest.parts, operand.form :: rest.forms⟩
    else return ⟨[], []⟩

/-- A tuple, a list, or an expression or comprehension in brackets. -/
def collection (inner : Inner) (targets : Reader (List Tree)) (opener closer : String)
    (fuel : Nat) (follow : Follow) : Reader Operand := do
  let first ← takeMark opener Follow.bracketed.after
  if ← atMark closer then
    return ⟨.group [first, ← take follow.after], .place⟩
  let operand ← element inner fuel
  if ← atWords ["for", "async"] then
    let more ← clauses inner targets fuel
    let last ← takeMark closer follow.after
    return ⟨.group (first :: operand.tree :: more ++ [last]), .value⟩
  let rest ← elementsTail inner closer fuel
  let last ← takeMark closer follow.after
  let form := if operand.form.isTarget && rest.isTarget then Form.place else .value
  return ⟨.group (first :: operand.tree :: rest.parts ++ [last]), form⟩

/-- One entry of a dictionary behind the first. -/
def entry (inner : Inner) : Reader Tree := do
  if ← atMark "**" then
    let stars ← take {}
    let value ← inner.expression .bracketed
    return .group [stars, value.tree]
  else
    let key ← inner.expression {}
    let colon ← takeMark ":" {}
    let value ← inner.expression .bracketed
    return .group [key.tree, colon, value.tree]

/-- Commas and entries behind the first, up to the closing brace. -/
def entriesTail (inner : Inner) : Nat → Reader (List Tree)
  | 0 => fail
  | fuel + 1 => do
    if ← atMark "," then
      let comma ← take Follow.bracketed.after
      if ← atMark "\x7d" then return [comma]
      else
        let next ← entry inner
        return comma :: next :: (← entriesTail inner fuel)
    else return []

/-- A dictionary, a set, or a comprehension of either. -/
def braces (inner : Inner) (targets : Reader (List Tree)) (fuel : Nat) (follow : Follow) :
    Reader Operand := do
  let first ← takeMark "\x7b" Follow.bracketed.after
  let finish (parts : List Tree) : Reader Operand := do
    let last ← takeMark "\x7d" follow.after
    return ⟨.group (first :: parts ++ [last]), .value⟩
  if ← atMark "\x7d" then finish []
  else if ← atMark "," then
    let comma ← take Follow.bracketed.after
    finish [comma]
  else if ← atMark "**" then
    let next ← entry inner
    finish (next :: (← entriesTail inner fuel))
  else
    let operand ← element inner fuel
    if ← atMark ":" then
      let colon ← take {}
      let value ← inner.expression .bracketed
      let pair := Tree.group [operand.tree, colon, value.tree]
      if ← atWords ["for", "async"] then
        finish (pair :: (← clauses inner targets fuel))
      else finish (pair :: (← entriesTail inner fuel))
    else if ← atWords ["for", "async"] then
      finish (operand.tree :: (← clauses inner targets fuel))
    else
      let rest ← elementsTail inner "\x7d" fuel
      finish (operand.tree :: rest.parts)

/-- One argument of a call. -/
def argument (inner : Inner) : Reader Tree := do
  if ← atMarks ["*", "**"] then
    let stars ← take {}
    let value ← inner.expression .bracketed
    return .group [stars, value.tree]
  else
    let operand ← inner.expression .bracketed
    if operand.form == .name && (← atMark "=") then
      let equals ← take {}
      let value ← inner.expression .bracketed
      return .group [operand.tree, equals, value.tree]
    else return operand.tree

/-- Commas and arguments behind the first, up to the closing bracket. -/
def argumentsTail (inner : Inner) : Nat → Reader (List Tree)
  | 0 => fail
  | fuel + 1 => do
    if ← atMark "," then
      let comma ← take Follow.bracketed.after
      if ← atMark ")" then return [comma]
      else
        let next ← argument inner
        return comma :: next :: (← argumentsTail inner fuel)
    else return []

/-- The arguments of a call, or one comprehension in their place. -/
def arguments (inner : Inner) (targets : Reader (List Tree)) (fuel : Nat) (expect : Expect) :
    Reader Tree := do
  let first ← takeMark "(" Follow.bracketed.after
  let finish (parts : List Tree) : Reader Tree := do
    let last ← takeMark ")" expect
    return .group (first :: parts ++ [last])
  if ← atMark ")" then finish []
  else if ← atMark "," then
    let comma ← take Follow.bracketed.after
    finish [comma]
  else
    let next ← argument inner
    if ← atWords ["for", "async"] then
      finish (next :: (← clauses inner targets fuel))
    else finish (next :: (← argumentsTail inner fuel))

/-- An expression of a slice, if one stands here. -/
def bound (inner : Inner) : Reader (List Tree) := do
  if startsExpression (← peek) then
    let operand ← inner.expression .bracketed
    return [operand.tree]
  else return []

/-- A subscript: an expression or a slice. -/
def subscript (inner : Inner) : Reader Tree := do
  let first ← bound inner
  if ← atMark ":" then
    let colon ← take Follow.bracketed.after
    let second ← bound inner
    if ← atMark ":" then
      let step ← take Follow.bracketed.after
      let third ← bound inner
      return .group (first ++ colon :: second ++ step :: third)
    else return .group (first ++ colon :: second)
  else if first.isEmpty then fail
  else return .group first

/-- Commas and subscripts behind the first. -/
def subscriptsTail (inner : Inner) : Nat → Reader (List Tree)
  | 0 => fail
  | fuel + 1 => do
    if ← atMark "," then
      let comma ← take Follow.bracketed.after
      if ← atMark "]" then return [comma]
      else
        let next ← subscript inner
        return comma :: next :: (← subscriptsTail inner fuel)
    else return []

/-- Subscripts in brackets. -/
def subscripts (inner : Inner) (fuel : Nat) (expect : Expect) : Reader Tree := do
  let first ← takeMark "[" {}
  let next ← subscript inner
  let rest ← subscriptsTail inner fuel
  let last ← takeMark "]" expect
  return .group (first :: next :: rest ++ [last])

end SourceOutline.Grammar
