import SourceOutline.Grammar.Operand

/-!
# Strings with expressions in them

Inside a string the reader moves by pieces; at a brace it reads tokens again, up to the
brace that closes the expression.
-/

namespace SourceOutline.Grammar

open Reader

/-- The content of a string up to its closing quotes, and whether it holds expressions. -/
def stringBody (inner : Inner) (opening : Opening) (expect : Expect) :
    Nat → Reader (List Char × Bool × Nat)
  | 0 => fail
  | fuel + 1 => do
    let cursor ← get
    let piece := pieceAt opening cursor.rest
    let row := cursor.row + rowsIn piece.taken
    match piece.kind with
    | .content =>
      moveTo piece.rest row
      let (content, interpolated, last) ← stringBody inner opening expect fuel
      return (piece.taken ++ content, interpolated, last)
    | .gap =>
      moveTo piece.rest row
      stringBody inner opening expect fuel
    | .brace =>
      let _ ← resume {} piece.rest row
      let _ ← inner.interpolation
      let (content, _, last) ← stringBody inner opening expect fuel
      return (content, true, last)
    | .close =>
      modify fun cursor => { cursor with layout := { cursor.layout with insideFormat := false } }
      return ([], false, ← resume expect piece.rest row)
    | .broken => fail

/-- One string. -/
def stringLiteral (inner : Inner) (fuel : Nat) (expect : Expect) : Reader Literal := do
  let cursor ← get
  match cursor.token with
  | .quote opening =>
    let (content, interpolated, last) ← stringBody inner opening expect fuel
    return ⟨opening.text, content, interpolated, cursor.row, last⟩
  | _ => fail

/-- The next string, if there is one. -/
def stringLiteral? (inner : Inner) (fuel : Nat) (expect : Expect) : Reader (Option Literal) := do
  match ← peek with
  | .quote _ => return some (← stringLiteral inner fuel expect)
  | _ => return none

/-- One string or several side by side. -/
def stringLiterals (inner : Inner) (fuel : Nat) (expect : Expect) : Reader Tree := do
  let first ← stringLiteral inner fuel expect
  match ← many (stringLiteral? inner fuel expect) fuel with
  | [] => return .string first
  | more => return .strings (first :: more)

/-- The format behind the colon of an interpolated value, up to the closing brace. -/
def formatSpecification (inner : Inner) : Nat → Reader Unit
  | 0 => fail
  | fuel + 1 => do
    let cursor ← get
    let plain := cursor.rest.takeWhile fun c => c != '\x7b' && c != '\x7d' && c != '\x00'
    let row := cursor.row + rowsIn plain
    match cursor.rest.drop plain.length with
    | '\x7b' :: rest =>
      let _ ← resume {} rest row
      let _ ← inner.interpolation
      formatSpecification inner fuel
    | '\x7d' :: rest => moveTo rest row
    | _ => fail

/-- An expression in a string, from behind its opening brace to its closing brace. -/
def interpolation (inner : Inner) (fuel : Nat) : Reader Tree := do
  let values ← yieldOrSequence inner fuel .bracketed
  if ← atMark "=" then
    let _ ← take Follow.bracketed.after
  if (← peek) == .conversion then
    let _ ← take Follow.bracketed.after
  match ← peek with
  | .mark ":" =>
    formatSpecification inner fuel
  | .mark ":=" =>
    modify fun cursor => { cursor with rest := '=' :: cursor.rest }
    formatSpecification inner fuel
  | .mark "\x7d" => pure ()
  | _ => fail
  return .group values.parts

end SourceOutline.Grammar
