import SourceOutline.Grammar.Expression

/-!
# Types and parameters
-/

namespace SourceOutline.Grammar

open Reader

/-- Types behind the first, up to the closing bracket. -/
def typesTail (inner : Inner) : Nat → Reader (List Tree)
  | 0 => fail
  | fuel + 1 => do
    if ← atMark "," then
      let comma ← take Follow.bracketed.after
      if ← atMark "]" then return [comma]
      else return comma :: (← inner.annotation .bracketed) :: (← typesTail inner fuel)
    else return []

/-- Types in brackets, at least one. -/
def typeParameters (inner : Inner) (fuel : Nat) (expect : Expect) : Reader Tree := do
  let first ← takeMark "[" {}
  let type ← inner.annotation .bracketed
  let rest ← typesTail inner fuel
  let last ← takeMark "]" expect
  return .group (first :: type :: rest ++ [last])

/-- A name with types in brackets, an expression, or a starred name. -/
def typeUnit (inner : Inner) (fuel : Nat) (follow : Follow) : Reader Tree := do
  match ← peek with
  | .mark "**" =>
    let stars ← take {}
    return .group [stars, (← takeName follow.after).2]
  | .word text =>
    let cursor ← get
    let behind := next follow.after cursor.layout cursor.rest cursor.row {}
    if isName text && behind.token == .mark "[" then
      let name ← take follow.after
      return .group [name, ← typeParameters inner fuel follow.after]
    else return (← inner.expression follow).tree
  | _ => return (← inner.expression follow).tree

/-- What may stand behind a type: an alternative, a bound or a member. -/
def typeTail (inner : Inner) (bounded : Bool) (follow : Follow) : Nat → Reader (List Tree)
  | 0 => fail
  | fuel + 1 => do
    match ← peek with
    | .mark "|" =>
      let bar ← take {}
      let type ← typeUnit inner fuel follow
      return bar :: type :: (← typeTail inner bounded follow fuel)
    | .mark ":" =>
      if bounded then
        let colon ← take {}
        let type ← typeUnit inner fuel follow
        return colon :: type :: (← typeTail inner bounded follow fuel)
      else return []
    | .mark "." =>
      let dot ← take {}
      let (_, name) ← takeName follow.after
      return dot :: name :: (← typeTail inner bounded follow fuel)
    | _ => return []

/-- A type. A bound behind a colon is part of it only where no suite can follow. -/
def annotation (inner : Inner) (bounded : Bool) (fuel : Nat) (follow : Follow) : Reader Tree := do
  let first ← typeUnit inner fuel follow
  match ← typeTail inner bounded follow fuel with
  | [] => return first
  | rest => return .group (first :: rest)

/-- A type behind a colon, and whether one stands here. -/
def parameterType (inner : Inner) : Reader Bool := do
  if ← atMark ":" then
    let _ ← take {}
    let _ ← inner.annotation .bracketed
    return true
  else return false

/-- A default value behind an equals sign, and whether one stands here. -/
def parameterDefault (inner : Inner) : Reader Bool := do
  if ← atMark "=" then
    let _ ← take {}
    let _ ← inner.expression .bracketed
    return true
  else return false

/-- A parameter with the given name. -/
def namedParameter (name : List Char) : Bool → Bool → Parameter
  | false, false => .plain name
  | false, true => .withDefault name
  | true, false => .typed name
  | true, true => .typedWithDefault name

/-- One entry of a parameter list. -/
def parameter (inner : Inner) (fuel : Nat) : Reader Parameter := do
  match ← peek with
  | .mark "/" =>
    let _ ← take Follow.bracketed.after
    return .slash
  | .mark "*" | .mark "**" =>
    let double ← atMark "**"
    let _ ← take Follow.bracketed.after
    if !double && (← atMarks [",", ")"]) then return .star
    else
      let (operand, _) ← primary inner (loopTargets inner fuel) fuel .bracketed
      if operand.form.isTarget then return .splat (← parameterType inner) else fail
  | .mark "(" =>
    let names ← collection inner (loopTargets inner fuel) "(" ")" fuel .bracketed
    if names.form.isTarget then
      let _ ← parameterDefault inner
      return .grouped
    else fail
  | _ =>
    let (name, _) ← takeName Follow.bracketed.after
    let typed ← parameterType inner
    let defaulted ← parameterDefault inner
    return namedParameter name typed defaulted

/-- The entries of a parameter list up to its closing bracket. -/
def parameterEntries (inner : Inner) : Nat → Reader (List Parameter)
  | 0 => fail
  | fuel + 1 => do
    let first ← parameter inner fuel
    if ← atMark "," then
      let _ ← take Follow.bracketed.after
      if ← atMark ")" then return [first]
      else return first :: (← parameterEntries inner fuel)
    else return [first]

/-- A parameter list in brackets. -/
def parameters (inner : Inner) (fuel : Nat) : Reader (List Parameter) := do
  let _ ← takeMark "(" Follow.bracketed.after
  let entries ← if ← atMark ")" then pure [] else parameterEntries inner fuel
  let _ ← takeMark ")" {}
  return entries

end SourceOutline.Grammar
