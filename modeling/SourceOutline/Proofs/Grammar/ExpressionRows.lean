import Mathlib
import SourceOutline.Grammar.CasePattern
import SourceOutline.Grammar.Expression
import SourceOutline.Grammar.Annotation
import SourceOutline.Proofs.Grammar.Reading

/-!
# Rows of expressions

Readers of expressions, types and patterns read in source order when the readers that they enter
again do. Each is followed through its branches: what it takes stands behind what it took before.
-/

namespace SourceOutline.Grammar

open Std.Do Reader

set_option mvcgen.warning false

/-- The readers that may be entered again read in source order. -/
structure Inner.InOrder (inner : Inner) : Prop where
  expression (follow : Follow) (before : Cursor) :
    ⦃At before⦄ inner.expression follow ⦃Reads before (·.tree.rows)⦄
  interpolation (before : Cursor) :
    ⦃At before⦄ inner.interpolation ⦃Reads before fun _ => []⦄
  annotation (follow : Follow) (before : Cursor) :
    ⦃At before⦄ inner.annotation follow ⦃Reads before Tree.rows⦄
  casePattern (follow : Follow) (before : Cursor) :
    ⦃At before⦄ inner.casePattern follow ⦃Reads before Tree.rows⦄
  block (before : Cursor) :
    ⦃At before⦄ inner.block ⦃Reads before rowsOfTrees⦄

attribute [spec] Inner.InOrder.expression Inner.InOrder.interpolation Inner.InOrder.annotation
  Inner.InOrder.casePattern Inner.InOrder.block

variable {inner : Inner} {targets : Reader (List Tree)}

/-! ## Sequences -/

/-- What follows the first expression of a sequence stands behind it in order. -/
@[spec]
theorem sequenceTail_reads (inOrder : inner.InOrder) (follow : Follow) (fuel : Nat)
    (before : Cursor) :
    ⦃At before⦄ sequenceTail inner follow fuel ⦃Reads before (rowsOfTrees ·.parts)⦄ := by
  induction fuel generalizing before with
  | zero => mvcgen [sequenceTail]
  | succ fuel ih =>
    mvcgen [sequenceTail, ih]
    all_goals simp_all
    all_goals grind

/-- The expressions of a sequence stand in order. -/
@[spec]
theorem sequence_reads (inOrder : inner.InOrder) (fuel : Nat) (follow : Follow) (before : Cursor) :
    ⦃At before⦄ sequence inner fuel follow ⦃Reads before (rowsOfTrees ·.parts)⦄ := by
  mvcgen [sequence]
  all_goals simp_all
  all_goals grind

/-- The expressions of a sequence that no comma may end stand in order. -/
@[spec]
theorem strictSequence_reads (inOrder : inner.InOrder) (follow : Follow) (fuel : Nat)
    (before : Cursor) :
    ⦃At before⦄ strictSequence inner follow fuel ⦃Reads before rowsOfTrees⦄ := by
  induction fuel generalizing before with
  | zero => mvcgen [strictSequence]
  | succ fuel ih =>
    mvcgen [strictSequence, ih]
    all_goals simp_all
    all_goals grind

/-- A `yield` stands in front of its values. -/
@[spec]
theorem yieldExpression_reads (inOrder : inner.InOrder) (fuel : Nat) (follow : Follow)
    (before : Cursor) :
    ⦃At before⦄ yieldExpression inner fuel follow ⦃Reads before (·.tree.rows)⦄ := by
  mvcgen [yieldExpression]
  all_goals simp_all
  all_goals grind

/-- A `yield` and a sequence are read in order alike. -/
@[spec]
theorem yieldOrSequence_reads (inOrder : inner.InOrder) (fuel : Nat) (follow : Follow)
    (before : Cursor) :
    ⦃At before⦄ yieldOrSequence inner fuel follow ⦃Reads before (rowsOfTrees ·.parts)⦄ := by
  mvcgen [yieldOrSequence]
  all_goals simp_all

/-! ## Strings -/

/-- The content of a string is read up to the row of its closing quotes. Places inside a string are
no tokens, so the start of the string is kept through the recursion. -/
theorem stringBody_reads (inOrder : inner.InOrder) (opening : Opening) (expect : Expect)
    (fuel : Nat) {start before : Cursor} (passed : Step start [] before) :
    ⦃At before⦄ stringBody inner opening expect fuel ⦃Reads start fun found => [found.2.2]⦄ := by
  induction fuel generalizing before with
  | zero => mvcgen [stringBody]
  | succ fuel ih =>
    have further := pieceAt_further opening before.row before.rest
    mvcgen [stringBody, moveTo, ih]
    all_goals subst_vars
    case vc1 | vc2 => exact passed.append (.of_further further)
    case vc3 | vc6 => exact further
    case vc5 resumed _ _ entered => exact (passed.behind resumed.pass).behind entered
    case vc7 closed => exact passed.behind ⟨closed.ascend, closed.counted⟩

/-- A string stands on the rows from its first quote to its last. -/
@[spec]
theorem stringLiteral_reads (inOrder : inner.InOrder) (fuel : Nat) (expect : Expect)
    (before : Cursor) :
    ⦃At before⦄ stringLiteral inner fuel expect ⦃Reads before Literal.rows⦄ := by
  have body (opening : Opening) := stringBody_reads inOrder opening expect fuel (.refl before)
  mvcgen [stringLiteral, body]
  case vc2 read =>
    subst_vars
    exact read.cons_row

/-- A string is read in order if one stands here, and otherwise nothing is taken. -/
@[spec]
theorem stringLiteral?_reads (inOrder : inner.InOrder) (fuel : Nat) (expect : Expect)
    (before : Cursor) :
    ⦃At before⦄ stringLiteral? inner fuel expect
    ⦃Reads before fun found => found.elim [] Literal.rows⦄ := by
  mvcgen [stringLiteral?]
  all_goals simp_all
  all_goals grind

/-- Strings side by side stand in order. -/
@[spec]
theorem stringLiterals_reads (inOrder : inner.InOrder) (fuel : Nat) (expect : Expect)
    (before : Cursor) :
    ⦃At before⦄ stringLiterals inner fuel expect ⦃Reads before Tree.rows⦄ := by
  have more := many_reads (stringLiteral?_reads inOrder fuel expect) fuel
  mvcgen [stringLiterals, more]
  all_goals simp_all
  all_goals grind

/-- A format is passed up to its closing brace. -/
theorem formatSpecification_reads (inOrder : inner.InOrder) (fuel : Nat) {start before : Cursor}
    (passed : Step start [] before) :
    ⦃At before⦄ formatSpecification inner fuel ⦃Reads start fun _ => []⦄ := by
  induction fuel generalizing before with
  | zero => mvcgen [formatSpecification]
  | succ fuel ih =>
    mvcgen [formatSpecification, moveTo, ih]
    all_goals subst_vars
    case vc1 cut => exact takeWhile_further _ _ _ cut
    case vc3 resumed _ =>
      intro place entered
      exact (passed.behind resumed.pass).behind entered
    case vc4 cut _ => exact passed.behind (.of_further (takeWhile_further _ _ _ cut))

/-- An equals sign is given back, which takes no row. -/
theorem Step.equals (cursor : Cursor) :
    Step cursor [] { cursor with rest := '=' :: cursor.rest } :=
  .of_further ⟨Nat.le_refl _, by simp [rowsIn]⟩

/-- An expression in a string is passed over and leaves no rows of its own. -/
theorem interpolation_reads (inOrder : inner.InOrder) (fuel : Nat) (before : Cursor) :
    ⦃At before⦄ interpolation inner fuel ⦃Reads before fun _ => []⦄ := by
  have format (place : Cursor) := formatSpecification_reads inOrder fuel (.refl place)
  mvcgen [interpolation, format]
  all_goals grind [→ Step.pass, Step.equals]

/-! ## Brackets -/

/-- The values that a clause runs over stand in order. -/
@[spec]
theorem clauseValues_reads (inOrder : inner.InOrder) (fuel : Nat) (before : Cursor) :
    ⦃At before⦄ clauseValues inner fuel ⦃Reads before rowsOfTrees⦄ := by
  induction fuel generalizing before with
  | zero => mvcgen [clauseValues]
  | succ fuel ih =>
    mvcgen [clauseValues, ih, atClause]
    all_goals simp_all
    all_goals grind

/-- The places of a clause stand in front of its values. -/
@[spec]
theorem forClause_reads (inOrder : inner.InOrder)
    (targets_read : ∀ before, ⦃At before⦄ targets ⦃Reads before rowsOfTrees⦄) (fuel : Nat)
    (before : Cursor) :
    ⦃At before⦄ forClause inner targets fuel ⦃Reads before Tree.rows⦄ := by
  mvcgen [forClause, targets_read]
  all_goals simp_all
  all_goals grind

/-- A clause is read in order if one stands here. -/
@[spec]
theorem clause?_reads (inOrder : inner.InOrder)
    (targets_read : ∀ before, ⦃At before⦄ targets ⦃Reads before rowsOfTrees⦄) (fuel : Nat)
    (before : Cursor) :
    ⦃At before⦄ clause? inner targets fuel ⦃Reads before fun found => found.elim [] Tree.rows⦄ := by
  mvcgen [clause?, targets_read, atClause]
  all_goals simp_all
  all_goals grind

/-- The clauses of a comprehension stand in order. -/
@[spec]
theorem clauses_reads (inOrder : inner.InOrder)
    (targets_read : ∀ before, ⦃At before⦄ targets ⦃Reads before rowsOfTrees⦄) (fuel : Nat)
    (before : Cursor) :
    ⦃At before⦄ clauses inner targets fuel ⦃Reads before rowsOfTrees⦄ := by
  have more := many_reads (clause?_reads inOrder targets_read fuel) fuel
  mvcgen [clauses, targets_read, more]
  all_goals simp_all
  all_goals grind

/-- An element is read in order, with or without a star. -/
@[spec]
theorem element_reads (inOrder : inner.InOrder) (fuel : Nat) (before : Cursor) :
    ⦃At before⦄ element inner fuel ⦃Reads before (·.tree.rows)⦄ := by
  mvcgen [element]
  all_goals simp_all
  all_goals grind

/-- The elements behind the first stand in order up to the closing bracket. -/
@[spec]
theorem elementsTail_reads (inOrder : inner.InOrder) (closer : String) (fuel : Nat)
    (before : Cursor) :
    ⦃At before⦄ elementsTail inner closer fuel ⦃Reads before (rowsOfTrees ·.parts)⦄ := by
  induction fuel generalizing before with
  | zero => mvcgen [elementsTail]
  | succ fuel ih =>
    mvcgen [elementsTail, ih]
    all_goals simp_all
    all_goals grind

/-- What stands in round or square brackets stands in order between them. -/
@[spec]
theorem collection_reads (inOrder : inner.InOrder)
    (targets_read : ∀ before, ⦃At before⦄ targets ⦃Reads before rowsOfTrees⦄)
    (opener closer : String) (fuel : Nat) (follow : Follow) (before : Cursor) :
    ⦃At before⦄ collection inner targets opener closer fuel follow
    ⦃Reads before (·.tree.rows)⦄ := by
  mvcgen [collection, targets_read]
  all_goals simp_all
  all_goals grind

/-- A key, or stars in its place, stands in front of its value. -/
@[spec]
theorem entry_reads (inOrder : inner.InOrder) (before : Cursor) :
    ⦃At before⦄ entry inner ⦃Reads before Tree.rows⦄ := by
  mvcgen [entry]
  all_goals simp_all
  all_goals grind

/-- The entries behind the first stand in order up to the closing brace. -/
@[spec]
theorem entriesTail_reads (inOrder : inner.InOrder) (fuel : Nat) (before : Cursor) :
    ⦃At before⦄ entriesTail inner fuel ⦃Reads before rowsOfTrees⦄ := by
  induction fuel generalizing before with
  | zero => mvcgen [entriesTail]
  | succ fuel ih =>
    mvcgen [entriesTail, ih]
    all_goals simp_all
    all_goals grind

/-- What stands in braces stands in order between them. -/
@[spec]
theorem braces_reads (inOrder : inner.InOrder)
    (targets_read : ∀ before, ⦃At before⦄ targets ⦃Reads before rowsOfTrees⦄) (fuel : Nat)
    (follow : Follow) (before : Cursor) :
    ⦃At before⦄ braces inner targets fuel follow ⦃Reads before (·.tree.rows)⦄ := by
  mvcgen [braces, targets_read]
  all_goals simp_all +zetaDelta
  all_goals grind

/-- An argument is read in order, what names or spreads it in front of its value. -/
@[spec]
theorem argument_reads (inOrder : inner.InOrder) (before : Cursor) :
    ⦃At before⦄ argument inner ⦃Reads before Tree.rows⦄ := by
  mvcgen [argument]
  all_goals simp_all
  all_goals grind

/-- The arguments behind the first stand in order up to the closing bracket. -/
@[spec]
theorem argumentsTail_reads (inOrder : inner.InOrder) (fuel : Nat) (before : Cursor) :
    ⦃At before⦄ argumentsTail inner fuel ⦃Reads before rowsOfTrees⦄ := by
  induction fuel generalizing before with
  | zero => mvcgen [argumentsTail]
  | succ fuel ih =>
    mvcgen [argumentsTail, ih]
    all_goals simp_all
    all_goals grind

/-- The arguments of a call stand in order between their brackets. -/
@[spec]
theorem arguments_reads (inOrder : inner.InOrder)
    (targets_read : ∀ before, ⦃At before⦄ targets ⦃Reads before rowsOfTrees⦄) (fuel : Nat)
    (expect : Expect) (before : Cursor) :
    ⦃At before⦄ arguments inner targets fuel expect ⦃Reads before Tree.rows⦄ := by
  mvcgen [arguments, targets_read]
  all_goals simp_all
  all_goals grind

/-- A bound of a slice is read in order if one stands here. -/
@[spec]
theorem bound_reads (inOrder : inner.InOrder) (before : Cursor) :
    ⦃At before⦄ bound inner ⦃Reads before rowsOfTrees⦄ := by
  mvcgen [bound]
  all_goals simp_all
  all_goals grind

/-- The bounds of a slice stand in order. -/
@[spec]
theorem subscript_reads (inOrder : inner.InOrder) (before : Cursor) :
    ⦃At before⦄ subscript inner ⦃Reads before Tree.rows⦄ := by
  mvcgen [subscript]
  all_goals simp_all
  all_goals grind

/-- The subscripts behind the first stand in order. -/
@[spec]
theorem subscriptsTail_reads (inOrder : inner.InOrder) (fuel : Nat) (before : Cursor) :
    ⦃At before⦄ subscriptsTail inner fuel ⦃Reads before rowsOfTrees⦄ := by
  induction fuel generalizing before with
  | zero => mvcgen [subscriptsTail]
  | succ fuel ih =>
    mvcgen [subscriptsTail, ih]
    all_goals simp_all
    all_goals grind

/-- Subscripts stand in order between their brackets. -/
@[spec]
theorem subscripts_reads (inOrder : inner.InOrder) (fuel : Nat) (expect : Expect)
    (before : Cursor) :
    ⦃At before⦄ subscripts inner fuel expect ⦃Reads before Tree.rows⦄ := by
  mvcgen [subscripts]
  all_goals simp_all
  all_goals grind

/-! ## Operands -/

/-- Names, numbers, strings and brackets are read in order. -/
@[spec]
theorem atom_reads (inOrder : inner.InOrder)
    (targets_read : ∀ before, ⦃At before⦄ targets ⦃Reads before rowsOfTrees⦄) (fuel : Nat)
    (follow : Follow) (before : Cursor) :
    ⦃At before⦄ atom inner targets fuel follow ⦃Reads before (·.tree.rows)⦄ := by
  mvcgen [atom, targets_read]
  all_goals simp_all

/-- What stands behind an operand is read into it, so the start of the operand is kept. -/
@[spec]
theorem trailers_reads (inOrder : inner.InOrder)
    (targets_read : ∀ before, ⦃At before⦄ targets ⦃Reads before rowsOfTrees⦄) (follow : Follow)
    (fuel : Nat) {start before : Cursor} {operand : Operand} (starred : Bool)
    (read : Step start operand.tree.rows before) :
    ⦃At before⦄ trailers inner targets follow fuel operand starred
    ⦃Reads start (·.1.tree.rows)⦄ := by
  induction fuel generalizing before operand starred with
  | zero => mvcgen [trailers]
  | succ fuel ih =>
    mvcgen [trailers, targets_read, ih]
    all_goals simp_all
    all_goals grind

/-- Attributes, subscripts and calls stand behind their atom. -/
@[spec]
theorem primary_reads (inOrder : inner.InOrder)
    (targets_read : ∀ before, ⦃At before⦄ targets ⦃Reads before rowsOfTrees⦄) (fuel : Nat)
    (follow : Follow) (before : Cursor) :
    ⦃At before⦄ primary inner targets fuel follow ⦃Reads before (·.1.tree.rows)⦄ := by
  mvcgen [primary, targets_read]
  all_goals simp_all

/-- A place that is assigned to is read in order, with or without a star. -/
@[spec]
theorem target_reads (inOrder : inner.InOrder)
    (targets_read : ∀ before, ⦃At before⦄ targets ⦃Reads before rowsOfTrees⦄) (fuel : Nat)
    (before : Cursor) :
    ⦃At before⦄ target inner targets fuel ⦃Reads before Tree.rows⦄ := by
  mvcgen [target, targets_read]
  all_goals simp_all
  all_goals grind

/-- The places behind the first stand in order. -/
@[spec]
theorem targetsTail_reads {place : Reader Tree}
    (place_reads : ∀ before, ⦃At before⦄ place ⦃Reads before Tree.rows⦄) (fuel : Nat)
    (before : Cursor) :
    ⦃At before⦄ targetsTail place fuel ⦃Reads before rowsOfTrees⦄ := by
  induction fuel generalizing before with
  | zero => mvcgen [targetsTail]
  | succ fuel ih =>
    mvcgen [targetsTail, ih, place_reads]
    all_goals simp_all
    all_goals grind

/-- The places that a loop assigns to stand in order, at every depth of comprehensions in them. -/
@[spec]
theorem loopTargets_reads (inOrder : inner.InOrder) (fuel : Nat) (before : Cursor) :
    ⦃At before⦄ loopTargets inner fuel ⦃Reads before rowsOfTrees⦄ := by
  induction fuel generalizing before with
  | zero => mvcgen [loopTargets]
  | succ fuel ih =>
    have place := target_reads inOrder ih fuel
    have more := targetsTail_reads place fuel
    mvcgen [loopTargets, ih, place, more]
    all_goals simp_all
    all_goals grind

/-- Signs stand in front of their operand. -/
@[spec]
theorem signed_reads (inOrder : inner.InOrder) (follow : Follow) (fuel : Nat) (before : Cursor) :
    ⦃At before⦄ signed inner follow fuel ⦃Reads before (·.tree.rows)⦄ := by
  induction fuel generalizing before with
  | zero => mvcgen [signed]
  | succ fuel ih =>
    mvcgen [signed, ih]
    all_goals simp_all
    all_goals grind

/-- An operator of one or two words is read in order if one stands here. -/
@[spec]
theorem operator?_reads (before : Cursor) :
    ⦃At before⦄ operator? ⦃Reads before fun found => found.elim [] rowsOfTrees⦄ := by
  mvcgen [operator?]
  all_goals simp_all
  all_goals grind

/-- Operators and the operands behind them stand in order. -/
@[spec]
theorem operands_reads (inOrder : inner.InOrder) (follow : Follow) (fuel : Nat) (before : Cursor) :
    ⦃At before⦄ operands inner follow fuel ⦃Reads before rowsOfTrees⦄ := by
  induction fuel generalizing before with
  | zero => mvcgen [operands]
  | succ fuel ih =>
    mvcgen [operands, ih]
    all_goals simp_all
    all_goals grind

/-- A default stands behind the name that has been read. -/
@[spec]
theorem withDefault_reads (inOrder : inner.InOrder) {start before : Cursor} {name : Tree}
    (read : Step start name.rows before) :
    ⦃At before⦄ lambdaParameter.withDefault inner name ⦃Reads start Tree.rows⦄ := by
  mvcgen [lambdaParameter.withDefault]
  all_goals simp_all
  all_goals grind

/-- A parameter of a `lambda` is read in order, with or without a default. -/
@[spec]
theorem lambdaParameter_reads (inOrder : inner.InOrder)
    (targets_read : ∀ before, ⦃At before⦄ targets ⦃Reads before rowsOfTrees⦄) (fuel : Nat)
    (before : Cursor) :
    ⦃At before⦄ lambdaParameter inner targets fuel ⦃Reads before Tree.rows⦄ := by
  mvcgen [lambdaParameter, targets_read]
  all_goals simp_all
  all_goals grind

/-- The parameters of a `lambda` stand in order up to its colon. -/
@[spec]
theorem lambdaParameters_reads (inOrder : inner.InOrder) (fuel : Nat) (before : Cursor) :
    ⦃At before⦄ lambdaParameters inner fuel ⦃Reads before rowsOfTrees⦄ := by
  induction fuel generalizing before with
  | zero => mvcgen [lambdaParameters]
  | succ fuel ih =>
    mvcgen [lambdaParameters, ih]
    all_goals simp_all
    all_goals grind

/-- The parameters of a `lambda` stand in front of its value. -/
@[spec]
theorem lambda_reads (inOrder : inner.InOrder) (fuel : Nat) (follow : Follow) (before : Cursor) :
    ⦃At before⦄ lambda inner fuel follow ⦃Reads before (·.tree.rows)⦄ := by
  mvcgen [lambda]
  all_goals simp_all
  all_goals grind

/-- An operand of `and`, `or`, `if` and `as` is read in order. -/
@[spec]
theorem unit_reads (inOrder : inner.InOrder) (follow : Follow) (fuel : Nat) (before : Cursor) :
    ⦃At before⦄ unit inner follow fuel ⦃Reads before (·.tree.rows)⦄ := by
  induction fuel generalizing before with
  | zero => mvcgen [unit]
  | succ fuel ih =>
    mvcgen [unit, ih]
    all_goals simp_all
    all_goals grind

/-- What joins further operands to an expression stands in order. -/
@[spec]
theorem unitsTail_reads (inOrder : inner.InOrder) (follow : Follow) (fuel : Nat) (before : Cursor) :
    ⦃At before⦄ unitsTail inner follow fuel ⦃Reads before rowsOfTrees⦄ := by
  induction fuel generalizing before with
  | zero => mvcgen [unitsTail]
  | succ fuel ih =>
    mvcgen [unitsTail, ih]
    all_goals simp_all
    all_goals grind

/-- An expression is read in order. -/
theorem expression_reads (inOrder : inner.InOrder) (fuel : Nat) (follow : Follow)
    (before : Cursor) :
    ⦃At before⦄ expression inner fuel follow ⦃Reads before (·.tree.rows)⦄ := by
  mvcgen [expression]
  all_goals simp_all
  all_goals grind

/-! ## Types and parameters -/

/-- The types behind the first stand in order up to the closing bracket. -/
@[spec]
theorem typesTail_reads (inOrder : inner.InOrder) (fuel : Nat) (before : Cursor) :
    ⦃At before⦄ typesTail inner fuel ⦃Reads before rowsOfTrees⦄ := by
  induction fuel generalizing before with
  | zero => mvcgen [typesTail]
  | succ fuel ih =>
    mvcgen [typesTail, ih]
    all_goals simp_all
    all_goals grind

/-- Types stand in order between their brackets. -/
@[spec]
theorem typeParameters_reads (inOrder : inner.InOrder) (fuel : Nat) (expect : Expect)
    (before : Cursor) :
    ⦃At before⦄ typeParameters inner fuel expect ⦃Reads before Tree.rows⦄ := by
  mvcgen [typeParameters]
  all_goals simp_all
  all_goals grind

/-- A name stands in front of the types in brackets behind it. -/
@[spec]
theorem typeUnit_reads (inOrder : inner.InOrder) (fuel : Nat) (follow : Follow) (before : Cursor) :
    ⦃At before⦄ typeUnit inner fuel follow ⦃Reads before Tree.rows⦄ := by
  mvcgen [typeUnit]
  all_goals simp_all
  all_goals grind

/-- Alternatives, bounds and members stand in order behind a type. -/
@[spec]
theorem typeTail_reads (inOrder : inner.InOrder) (bounded : Bool) (follow : Follow) (fuel : Nat)
    (before : Cursor) :
    ⦃At before⦄ typeTail inner bounded follow fuel ⦃Reads before rowsOfTrees⦄ := by
  induction fuel generalizing before with
  | zero => mvcgen [typeTail]
  | succ fuel ih =>
    mvcgen [typeTail, ih]
    all_goals simp_all
    all_goals grind

/-- A type is read in order. -/
@[spec]
theorem annotation_reads (inOrder : inner.InOrder) (bounded : Bool) (fuel : Nat) (follow : Follow)
    (before : Cursor) :
    ⦃At before⦄ annotation inner bounded fuel follow ⦃Reads before Tree.rows⦄ := by
  mvcgen [ annotation]
  all_goals simp_all
  all_goals grind

/-- The type of a parameter is passed over and leaves no rows. -/
@[spec]
theorem parameterType_reads (inOrder : inner.InOrder) (before : Cursor) :
    ⦃At before⦄ parameterType inner ⦃Reads before fun _ => []⦄ := by
  mvcgen [parameterType]
  all_goals simp_all
  all_goals grind [→ Step.pass]

/-- The default of a parameter is passed over and leaves no rows. -/
@[spec]
theorem parameterDefault_reads (inOrder : inner.InOrder) (before : Cursor) :
    ⦃At before⦄ parameterDefault inner ⦃Reads before fun _ => []⦄ := by
  mvcgen [parameterDefault]
  all_goals simp_all
  all_goals grind [→ Step.pass]

/-- An entry of a parameter list leaves no rows. -/
@[spec]
theorem parameter_reads (inOrder : inner.InOrder) (fuel : Nat) (before : Cursor) :
    ⦃At before⦄ parameter inner fuel ⦃Reads before fun _ => []⦄ := by
  mvcgen [parameter]
  all_goals simp_all
  all_goals grind [→ Step.pass]

/-- The entries of a parameter list leave no rows. -/
@[spec]
theorem parameterEntries_reads (inOrder : inner.InOrder) (fuel : Nat) (before : Cursor) :
    ⦃At before⦄ parameterEntries inner fuel ⦃Reads before fun _ => []⦄ := by
  induction fuel generalizing before with
  | zero => mvcgen [parameterEntries]
  | succ fuel ih =>
    mvcgen [parameterEntries, ih]
    all_goals simp_all
    all_goals grind [→ Step.pass]

/-- A parameter list leaves no rows. -/
@[spec]
theorem parameters_reads (inOrder : inner.InOrder) (fuel : Nat) (before : Cursor) :
    ⦃At before⦄ parameters inner fuel ⦃Reads before fun _ => []⦄ := by
  mvcgen [parameters]
  all_goals simp_all
  all_goals grind [→ Step.pass]

/-! ## Patterns of a case -/

/-- A point stands in front of the name behind it. -/
@[spec]
theorem dottedMember_reads (expect : Expect) (before : Cursor) :
    ⦃At before⦄ dottedMember expect ⦃Reads before fun found => found.elim [] (·.1.rows)⦄ := by
  mvcgen [dottedMember]
  all_goals simp_all
  all_goals grind

/-- Names with points between them stand in order. -/
@[spec]
theorem dottedName_reads (expect : Expect) (fuel : Nat) (before : Cursor) :
    ⦃At before⦄ dottedName expect fuel ⦃Reads before (·.2.rows)⦄ := by
  have more := many_reads (dottedMember_reads expect) fuel
  mvcgen [dottedName, more]
  all_goals simp_all [rowsOfTrees_map]
  all_goals grind

/-- The patterns behind the first stand in order up to the closing bracket. -/
@[spec]
theorem patternsTail_reads (inOrder : inner.InOrder) (closer : String) (fuel : Nat)
    (before : Cursor) :
    ⦃At before⦄ patternsTail inner closer fuel ⦃Reads before rowsOfTrees⦄ := by
  induction fuel generalizing before with
  | zero => mvcgen [patternsTail]
  | succ fuel ih =>
    mvcgen [patternsTail, ih]
    all_goals simp_all
    all_goals grind

/-- Patterns stand in order between their brackets. -/
@[spec]
theorem bracketedPatterns_reads (inOrder : inner.InOrder) (opener closer : String) (fuel : Nat)
    (expect : Expect) (before : Cursor) :
    ⦃At before⦄ bracketedPatterns inner opener closer fuel expect ⦃Reads before Tree.rows⦄ := by
  mvcgen [bracketedPatterns]
  all_goals simp_all
  all_goals grind

/-- The numbers and signs of a number pattern stand in order. -/
@[spec]
theorem numberPattern_reads (expect : Expect) (before : Cursor) :
    ⦃At before⦄ numberPattern expect ⦃Reads before Tree.rows⦄ := by
  mvcgen [numberPattern]
  all_goals simp_all
  all_goals grind

/-- A pattern without alternatives is read in order if entries of dictionaries are. -/
@[spec]
theorem simplePattern_reads (inOrder : inner.InOrder) {entries : Reader (List Tree)}
    (entries_read : ∀ before, ⦃At before⦄ entries ⦃Reads before rowsOfTrees⦄) (fuel : Nat)
    (expect : Expect) (before : Cursor) :
    ⦃At before⦄ simplePattern inner entries fuel expect ⦃Reads before Tree.rows⦄ := by
  mvcgen [simplePattern, entries_read]
  all_goals simp_all
  all_goals grind

/-- The alternatives behind the first stand in order. -/
@[spec]
theorem alternatives_reads {simple : Reader Tree}
    (simple_reads : ∀ before, ⦃At before⦄ simple ⦃Reads before Tree.rows⦄) (fuel : Nat)
    (before : Cursor) :
    ⦃At before⦄ alternatives simple fuel ⦃Reads before rowsOfTrees⦄ := by
  induction fuel generalizing before with
  | zero => mvcgen [alternatives]
  | succ fuel ih =>
    mvcgen [alternatives, ih, simple_reads]
    all_goals simp_all
    all_goals grind

/-- The entries of a dictionary pattern stand in order, at every depth of patterns in them. -/
@[spec]
theorem patternEntries_reads (inOrder : inner.InOrder) (fuel : Nat) (before : Cursor) :
    ⦃At before⦄ patternEntries inner fuel ⦃Reads before rowsOfTrees⦄ := by
  induction fuel generalizing before with
  | zero => mvcgen [patternEntries]
  | succ fuel ih =>
    have simple := simplePattern_reads inOrder ih fuel {}
    have more := alternatives_reads simple fuel
    mvcgen [patternEntries, ih, patternEntries.entryOf, simple, more]
    all_goals simp_all
    all_goals grind

/-- A name given to a pattern is read in order if one stands here. -/
@[spec]
theorem captures_reads (expect : Expect) (before : Cursor) :
    ⦃At before⦄ captures expect ⦃Reads before fun found => found.elim [] Tree.rows⦄ := by
  mvcgen [captures]
  all_goals simp_all
  all_goals grind

/-- A pattern of a case is read in order. -/
theorem casePattern_reads (inOrder : inner.InOrder) (fuel : Nat) (follow : Follow)
    (before : Cursor) :
    ⦃At before⦄ casePattern inner fuel follow ⦃Reads before Tree.rows⦄ := by
  have entries := patternEntries_reads inOrder fuel
  have simple := simplePattern_reads inOrder entries fuel follow.after
  have others := alternatives_reads simple fuel
  have names := many_reads (captures_reads follow.after) fuel
  mvcgen [casePattern, simple, others, names]
  all_goals simp_all
  all_goals grind

end SourceOutline.Grammar
