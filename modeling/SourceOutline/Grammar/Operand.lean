import SourceOutline.Grammar.Reader

/-!
# What expressions are read with

The readers of a grammar call each other. Each is written over a record of the readers
that it may enter again, and the record of one level is made from that of the level below.
-/

namespace SourceOutline.Grammar

/-- What may follow an expression where it stands. -/
structure Follow where
  /-- The end of a statement. -/
  newline : Bool := false
  /-- A closing bracket. -/
  closer : Bool := false
  /-- A filter of a comprehension, so that `if` does not continue the expression. -/
  filter : Bool := false
  deriving DecidableEq, Repr

/-- The layout expected behind a complete expression. -/
def Follow.after (follow : Follow) : Expect :=
  { newline := follow.newline, closer := follow.closer }

/-- Inside brackets. -/
def Follow.bracketed : Follow := { closer := true }

/-- Inside the clauses of a comprehension. -/
def Follow.clause : Follow := { closer := true, filter := true }

/-- At the end of a statement. -/
def Follow.statement : Follow := { newline := true }

/-- Whether an expression can be assigned to. -/
inductive Form where
  /-- A name alone. -/
  | name
  /-- Another place that can be assigned to. -/
  | place
  /-- A value. -/
  | value
  deriving DecidableEq, Repr

/-- The form can be assigned to. -/
def Form.isTarget : Form → Bool
  | name | place => true
  | value => false

/-- An expression. -/
structure Operand where
  tree : Tree
  form : Form := .value

/-- The readers that may be entered again. -/
structure Inner where
  /-- One expression. -/
  expression : Follow → Reader Operand
  /-- An expression in a string, behind its brace. -/
  interpolation : Reader Tree
  /-- A type. -/
  annotation : Follow → Reader Tree
  /-- A pattern of a case. -/
  casePattern : Follow → Reader Tree
  /-- Statements up to the end of their block. -/
  block : Reader (List Tree)

/-- Expressions with commas between them. -/
structure Sequence where
  /-- The expressions and commas. -/
  parts : List Tree
  /-- The forms of the expressions. -/
  forms : List Form

/-- All expressions can be assigned to. -/
def Sequence.isTarget (sequence : Sequence) : Bool := sequence.forms.all Form.isTarget

/-- A token that may start an operand. -/
def startsOperand : Token → Bool
  | .word text => isOperandName text || ["True", "False", "None"].contains text
  | .number => true
  | .quote _ => true
  | .mark text => ["(", "[", "\x7b", "-", "+", "~", "*", "..."].contains text
  | _ => false

/-- A token that may start an expression. -/
def startsExpression (token : Token) : Bool :=
  startsOperand token || token == .word "not" || token == .word "lambda"

open Reader

/-- Commas and further expressions behind the first of a sequence. A comma may end it. -/
def sequenceTail (inner : Inner) (follow : Follow) : Nat → Reader Sequence
  | 0 => fail
  | fuel + 1 => do
    if ← atMark "," then
      let comma ← take follow.after
      if startsExpression (← peek) then
        let operand ← inner.expression follow
        let rest ← sequenceTail inner follow fuel
        return ⟨comma :: operand.tree :: rest.parts, operand.form :: rest.forms⟩
      else return ⟨[comma], []⟩
    else return ⟨[], []⟩

/-- Expressions with commas between them, at least one. -/
def sequence (inner : Inner) (fuel : Nat) (follow : Follow) : Reader Sequence := do
  let first ← inner.expression follow
  let rest ← sequenceTail inner follow fuel
  return ⟨first.tree :: rest.parts, first.form :: rest.forms⟩

/-- Expressions with commas between them and none behind the last. -/
def strictSequence (inner : Inner) (follow : Follow) : Nat → Reader (List Tree)
  | 0 => fail
  | fuel + 1 => do
    let first ← inner.expression follow
    if ← atMark "," then
      let comma ← take {}
      return first.tree :: comma :: (← strictSequence inner follow fuel)
    else return [first.tree]

/-- A `yield` with its values. -/
def yieldExpression (inner : Inner) (fuel : Nat) (follow : Follow) : Reader Operand := do
  let word ← takeWord "yield" follow.after
  if ← atWord "from" then
    let marker ← take {}
    let source ← inner.expression follow
    return ⟨.group [word, marker, source.tree], .value⟩
  else if startsExpression (← peek) then
    let values ← sequence inner fuel follow
    return ⟨.group (word :: values.parts), .value⟩
  else return ⟨.group [word], .value⟩

/-- A `yield` or expressions with commas between them. -/
def yieldOrSequence (inner : Inner) (fuel : Nat) (follow : Follow) : Reader Sequence := do
  if ← atWord "yield" then
    let operand ← yieldExpression inner fuel follow
    return ⟨[operand.tree], [.value]⟩
  else sequence inner fuel follow

end SourceOutline.Grammar
