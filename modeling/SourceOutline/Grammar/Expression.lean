import SourceOutline.Grammar.Brackets

/-!
# Expressions

An expression is read as operands with operators between them. Precedence does not matter
for an outline, so the operands stand side by side; what matters is which operands may
stand where.
-/

namespace SourceOutline.Grammar

open Reader

/-- Operators between two operands. -/
def binaryMarks : List String :=
  ["+", "-", "*", "/", "%", "@", "**", "//", ">>", "<<", "&", "|", "^", "<", "<=", "==", "!=",
    ">=", ">", "<>"]

/-- A name, number, string or bracket. Assignment targets are read by `targets`. -/
def atom (inner : Inner) (targets : Reader (List Tree)) (fuel : Nat) (follow : Follow) :
    Reader Operand := do
  match ← peek with
  | .word text =>
    if isOperandName text then return ⟨← take follow.after, .name⟩
    else if ["True", "False", "None"].contains text then return ⟨← take follow.after, .value⟩
    else fail
  | .number => return ⟨← take follow.after, .value⟩
  | .quote _ => return ⟨← stringLiterals inner fuel follow.after, .value⟩
  | .mark "..." => return ⟨← take follow.after, .value⟩
  | .mark "(" => collection inner targets "(" ")" fuel follow
  | .mark "[" => collection inner targets "[" "]" fuel follow
  | .mark "\x7b" => braces inner targets fuel follow
  | _ => fail

/-- Attributes, subscripts and calls behind an operand. The flag tells that a star may
stand in front of it. -/
def trailers (inner : Inner) (targets : Reader (List Tree)) (follow : Follow) :
    Nat → Operand → Bool → Reader (Operand × Bool)
  | 0, _, _ => fail
  | fuel + 1, operand, starred => do
    match ← peek with
    | .mark "." =>
      let dot ← take {}
      let (_, name) ← takeName follow.after
      trailers inner targets follow fuel ⟨.group [operand.tree, dot, name], .place⟩ true
    | .mark "[" =>
      let keys ← subscripts inner fuel follow.after
      trailers inner targets follow fuel ⟨.group [operand.tree, keys], .place⟩ true
    | .mark "(" =>
      let values ← arguments inner targets fuel follow.after
      trailers inner targets follow fuel ⟨.group [operand.tree, values], .value⟩ starred
    | _ => return (operand, starred)

/-- An atom with what stands behind it. -/
def primary (inner : Inner) (targets : Reader (List Tree)) (fuel : Nat) (follow : Follow) :
    Reader (Operand × Bool) := do
  let operand ← atom inner targets fuel follow
  trailers inner targets follow fuel operand (operand.form == .name)

/-- A place that can be assigned to, with or without a star. -/
def target (inner : Inner) (targets : Reader (List Tree)) (fuel : Nat) : Reader Tree := do
  let star ← if ← atMark "*" then (do return [← take {}]) else pure []
  let (operand, _) ← primary inner targets fuel {}
  if operand.form.isTarget then return .group (star ++ [operand.tree]) else fail

/-- Places behind the first, with commas between them. -/
def targetsTail (place : Reader Tree) : Nat → Reader (List Tree)
  | 0 => fail
  | fuel + 1 => do
    if ← atMark "," then
      let comma ← take {}
      if ← atWord "in" then return [comma]
      else return comma :: (← place) :: (← targetsTail place fuel)
    else return []

/-- The places that a loop assigns to. A comprehension inside them has places of its own,
which are read with less fuel. -/
def loopTargets (inner : Inner) : Nat → Reader (List Tree)
  | 0 => fail
  | fuel + 1 => do
    let place := target inner (loopTargets inner fuel) fuel
    return (← place) :: (← targetsTail place fuel)

/-- Signs in front of an operand, the star included. The word `await` is a name where no
operand stands behind it. -/
def signed (inner : Inner) (follow : Follow) : Nat → Reader Operand
  | 0 => fail
  | fuel + 1 => do
    if ← atMarks ["+", "-", "~"] then
      let sign ← take {}
      let operand ← signed inner follow fuel
      return ⟨.group [sign, operand.tree], .value⟩
    else if ← atMark "*" then
      let star ← take {}
      let (operand, starred) ← primary inner (loopTargets inner fuel) fuel follow
      if starred then
        return ⟨.group [star, operand.tree], if operand.form.isTarget then .place else .value⟩
      else fail
    else if ← atWord "await" then
      let word ← take follow.after
      if startsOperand (← peek) then
        let awaited ← signed inner follow fuel
        return ⟨.group [word, awaited.tree], .value⟩
      else
        let operand : Operand := ⟨word, .name⟩
        return (← trailers inner (loopTargets inner fuel) follow fuel operand true).1
    else return (← primary inner (loopTargets inner fuel) fuel follow).1

/-- The operator between two operands, if one stands here. -/
def operator? : Reader (Option (List Tree)) := do
  if ← atMarks binaryMarks then return some [← take {}]
  else if ← atWord "in" then return some [← take {}]
  else if ← atWord "not" then
    let word ← take {}
    return some [word, ← takeWord "in" {}]
  else if ← atWord "is" then
    let word ← take {}
    if ← atWord "not" then return some [word, ← take {}] else return some [word]
  else return none

/-- Operators and operands behind the first. -/
def operands (inner : Inner) (follow : Follow) : Nat → Reader (List Tree)
  | 0 => fail
  | fuel + 1 => do
    match ← operator? with
    | none => return []
    | some marks =>
      let operand ← signed inner follow fuel
      return marks ++ operand.tree :: (← operands inner follow fuel)

/-- One parameter of a `lambda`. -/
def lambdaParameter (inner : Inner) (targets : Reader (List Tree)) (fuel : Nat) :
    Reader Tree := do
  match ← peek with
  | .mark "/" => take {}
  | .mark "*" | .mark "**" =>
    let stars ← take {}
    if ← atMarks [",", ":"] then return stars
    else
      let (operand, _) ← primary inner targets fuel {}
      if operand.form.isTarget then return .group [stars, operand.tree] else fail
  | .mark "(" =>
    let names ← collection inner targets "(" ")" fuel {}
    if names.form.isTarget then withDefault names.tree else fail
  | _ =>
    let (_, name) ← takeName {}
    withDefault name
where
  withDefault (name : Tree) : Reader Tree := do
    if ← atMark "=" then
      let equals ← take {}
      let value ← inner.expression {}
      return .group [name, equals, value.tree]
    else return name

/-- The parameters of a `lambda` up to its colon. -/
def lambdaParameters (inner : Inner) : Nat → Reader (List Tree)
  | 0 => fail
  | fuel + 1 => do
    let first ← lambdaParameter inner (loopTargets inner fuel) fuel
    if ← atMark "," then
      let comma ← take {}
      if ← atMark ":" then return [first, comma]
      else return first :: comma :: (← lambdaParameters inner fuel)
    else return [first]

/-- A `lambda`. -/
def lambda (inner : Inner) (fuel : Nat) (follow : Follow) : Reader Operand := do
  let word ← takeWord "lambda" {}
  let parameters ← if ← atMark ":" then pure [] else lambdaParameters inner fuel
  let colon ← takeMark ":" {}
  let body ← inner.expression follow
  return ⟨.group (word :: parameters ++ [colon, body.tree]), .value⟩

/-- An operand of `and`, `or`, `if` and `as`. -/
def unit (inner : Inner) (follow : Follow) : Nat → Reader Operand
  | 0 => fail
  | fuel + 1 => do
    if ← atWord "not" then
      let word ← take {}
      let operand ← unit inner follow fuel
      return ⟨.group [word, operand.tree], .value⟩
    else if ← atWord "lambda" then lambda inner fuel follow
    else
      let first ← signed inner follow fuel
      if first.form == .name && (← atMark ":=") then
        let mark ← take {}
        let value ← inner.expression follow
        return ⟨.group [first.tree, mark, value.tree], .value⟩
      else
        match ← operands inner follow fuel with
        | [] => return first
        | rest => return ⟨.group (first.tree :: rest), .value⟩

/-- What joins further operands to an expression. -/
def unitsTail (inner : Inner) (follow : Follow) : Nat → Reader (List Tree)
  | 0 => fail
  | fuel + 1 => do
    if ← atWords ["and", "or", "as"] then
      let word ← take {}
      let operand ← unit inner follow fuel
      return word :: operand.tree :: (← unitsTail inner follow fuel)
    else if !follow.filter && (← atWord "if") then
      let word ← take {}
      let condition ← inner.expression {}
      let otherwise ← takeWord "else" {}
      let operand ← unit inner follow fuel
      return word :: condition.tree :: otherwise :: operand.tree ::
        (← unitsTail inner follow fuel)
    else return []

/-- One expression. -/
def expression (inner : Inner) (fuel : Nat) (follow : Follow) : Reader Operand := do
  let first ← unit inner follow fuel
  match ← unitsTail inner follow fuel with
  | [] => return first
  | rest => return ⟨.group (first.tree :: rest), .value⟩

end SourceOutline.Grammar
