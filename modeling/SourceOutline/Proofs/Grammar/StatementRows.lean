import Mathlib
import SourceOutline.Grammar.Source
import SourceOutline.Proofs.Grammar.ExpressionRows

/-!
# Rows of statements

Readers of statements read in source order too, and so do the readers of a whole source, over one
another at every depth. So the syntax tree of a source lies in the source: rows count its line
feeds, no row is behind its last, and code stands in the order in which it is written.
-/

namespace SourceOutline.Grammar

open Std.Do Reader

set_option mvcgen.warning false

variable {inner : Inner}

/-! ## Statements of one line -/

/-- The values and types of assignments stand in order behind the left side. -/
@[spec]
theorem assignments_reads (inOrder : inner.InOrder) (fuel : Nat) (left : Sequence)
    (before : Cursor) :
    ⦃At before⦄ assignments inner fuel left ⦃Reads before rowsOfTrees⦄ := by
  induction fuel generalizing before left with
  | zero => mvcgen [assignments]
  | succ fuel ih =>
    mvcgen [assignments, ih]
    all_goals simp_all
    all_goals grind

/-- An expression or assignment is read in order. -/
@[spec]
theorem expressionStatement_reads (inOrder : inner.InOrder) (fuel : Nat) (before : Cursor) :
    ⦃At before⦄ expressionStatement inner fuel ⦃Reads before Tree.rows⦄ := by
  mvcgen [expressionStatement]
  all_goals simp_all
  all_goals grind

/-- A module stands in front of its local name. -/
@[spec]
theorem importItem_reads (expect : Expect) (fuel : Nat) (before : Cursor) :
    ⦃At before⦄ importItem expect fuel ⦃Reads before (rowsOfTrees ·.2)⦄ := by
  mvcgen [importItem]
  all_goals simp_all
  all_goals grind

/-- Imported modules stand in order. -/
@[spec]
theorem importItems_reads (expect : Expect) (fuel : Nat) (before : Cursor) :
    ⦃At before⦄ importItems expect fuel ⦃Reads before (rowsOfTrees ·.2)⦄ := by
  induction fuel generalizing before with
  | zero => mvcgen [importItems]
  | succ fuel ih =>
    mvcgen [importItems, ih]
    all_goals simp_all
    all_goals grind

/-- An import statement runs from its first word to the last row of code behind it. -/
theorem Step.importTree {before after : Cursor} {parts : List Tree} (statement : Import)
    (read : Step before (rowsOfTrees parts) after) :
    Step before (importTree statement before.row parts).rows after := by
  refine Step.cons_row (Step.sublist read.cons_row ?_)
  cases found : codeEndOfList? parts with
  | none => exact List.cons_sublist_cons.mpr (List.nil_sublist _)
  | some last =>
    have listed := codeEndOfList?_mem_rows parts found
    exact (List.singleton_sublist.mpr listed).cons before.row

/-- The modules of an import stand behind its word. -/
@[spec]
theorem importStatement_reads (fuel : Nat) (before : Cursor) :
    ⦃At before⦄ importStatement fuel ⦃Reads before Tree.rows⦄ := by
  mvcgen [importStatement]
  all_goals subst_vars
  all_goals refine Step.importTree _ ?_
  all_goals grind [→ Step.pass]

/-- A point in front of a module name is read in order if one stands here. -/
@[spec]
theorem leadingDot?_reads (before : Cursor) :
    ⦃At before⦄ leadingDot? ⦃Reads before fun found => found.elim [] Tree.rows⦄ := by
  mvcgen [leadingDot?]
  all_goals simp_all
  all_goals grind

/-- The module whose names are imported leaves no rows. -/
@[spec]
theorem importSource_reads (fuel : Nat) (before : Cursor) :
    ⦃At before⦄ importSource fuel ⦃Reads before fun _ => []⦄ := by
  have dots := many_reads leadingDot?_reads fuel
  -- The name of the language features need not be spelled out.
  unfold importSource
  generalize "__future__".toList = future
  mvcgen [importSource, dots]
  all_goals simp_all
  all_goals grind [→ Step.pass]

/-- The names of an import stand behind its words. -/
@[spec]
theorem fromStatement_reads (fuel : Nat) (before : Cursor) :
    ⦃At before⦄ fromStatement fuel ⦃Reads before Tree.rows⦄ := by
  mvcgen [fromStatement]
  all_goals subst_vars
  all_goals refine Step.importTree _ ?_
  all_goals grind [→ Step.pass, rowsOfTrees]

/-- Names with commas between them stand in order. -/
@[spec]
theorem nameList_reads (fuel : Nat) (before : Cursor) :
    ⦃At before⦄ nameList fuel ⦃Reads before rowsOfTrees⦄ := by
  induction fuel generalizing before with
  | zero => mvcgen [nameList]
  | succ fuel ih =>
    mvcgen [nameList, ih]
    all_goals simp_all
    all_goals grind

/-- Expressions are read in order if any stand here. -/
@[spec]
theorem optionalSequence_reads (inOrder : inner.InOrder) (fuel : Nat) (before : Cursor) :
    ⦃At before⦄ optionalSequence inner fuel ⦃Reads before rowsOfTrees⦄ := by
  mvcgen [optionalSequence]
  all_goals simp_all
  all_goals grind

/-- The exception of a `raise` stands in front of its cause. -/
@[spec]
theorem raiseStatement_reads (inOrder : inner.InOrder) (fuel : Nat) (before : Cursor) :
    ⦃At before⦄ raiseStatement inner fuel ⦃Reads before Tree.rows⦄ := by
  mvcgen [raiseStatement]
  all_goals simp_all
  all_goals grind

/-- The values of a `print` stand in order behind it. -/
@[spec]
theorem printStatement_reads (inOrder : inner.InOrder) (fuel : Nat) (before : Cursor) :
    ⦃At before⦄ printStatement inner fuel ⦃Reads before Tree.rows⦄ := by
  mvcgen [printStatement]
  all_goals simp_all
  all_goals grind

/-- The name spaces of an `exec` stand behind its text. -/
@[spec]
theorem execStatement_reads (inOrder : inner.InOrder) (fuel : Nat) (before : Cursor) :
    ⦃At before⦄ execStatement inner fuel ⦃Reads before Tree.rows⦄ := by
  mvcgen [execStatement]
  all_goals simp_all
  all_goals grind

/-- The name of a type stands in front of its meaning. -/
@[spec]
theorem typeStatement_reads (inOrder : inner.InOrder) (before : Cursor) :
    ⦃At before⦄ typeStatement inner ⦃Reads before Tree.rows⦄ := by
  mvcgen [typeStatement]
  all_goals simp_all
  all_goals grind

/-- An expression that ends a statement is read in order. -/
@[spec]
theorem closedExpression_reads (inOrder : inner.InOrder) (fuel : Nat) (before : Cursor) :
    ⦃At before⦄ closedExpression inner fuel ⦃Reads before Tree.rows⦄ := by
  mvcgen [closedExpression]
  all_goals simp_all

/-- A statement of a line is read in order. -/
@[spec]
theorem simpleStatement_reads (inOrder : inner.InOrder) (fuel : Nat) (before : Cursor) :
    ⦃At before⦄ simpleStatement inner fuel ⦃Reads before Tree.rows⦄ := by
  mvcgen [simpleStatement]
  all_goals simp_all
  all_goals grind

/-- A statement behind a semicolon is read in order if one stands here. -/
@[spec]
theorem nextStatement?_reads (inOrder : inner.InOrder) (fuel : Nat) (before : Cursor) :
    ⦃At before⦄ nextStatement? inner fuel
    ⦃Reads before fun found => found.elim [] rowsOfTrees⦄ := by
  mvcgen [nextStatement?]
  all_goals simp_all
  all_goals grind

/-- The statements of a suite stand in front of the line that is continued behind it. -/
@[simp]
theorem rowsOfTrees_parts (suite : Suite) :
    rowsOfTrees suite.parts = rowsOfTrees suite.body ++ rowsOfTrees suite.behind :=
  rowsOfTrees_append _ _

/-- Behind the first statement of a line, the rest of the line is read in source order. -/
@[spec]
theorem lineFrom_reads (inOrder : inner.InOrder) (fuel : Nat) (expect : Expect) {first : Tree}
    {start before : Cursor} (read : Step start first.rows before) :
    ⦃At before⦄ lineFrom inner fuel expect first ⦃Reads start (rowsOfTrees ·.parts)⦄ := by
  have more := many_reads (nextStatement?_reads inOrder fuel) fuel
  mvcgen [lineFrom, more]
  all_goals simp_all
  all_goals grind

/-- The statements of a line are read in source order. -/
theorem simpleLine_reads (inOrder : inner.InOrder) (fuel : Nat) (expect : Expect)
    (before : Cursor) :
    ⦃At before⦄ simpleLine inner fuel expect ⦃Reads before (rowsOfTrees ·.parts)⦄ := by
  mvcgen [simpleLine]
  · exact fun _ _ => inOrder
  · subst_vars
    exact fun _ read => read

/-! ## Statements with a suite -/

/-- An empty suite takes the row on which its line ends. -/
theorem emptySuite_reads (expect : Expect) (before : Cursor) :
    ⦃At before⦄ emptySuite expect ⦃Reads before (rowsOfTrees ·.parts)⦄ := by
  mvcgen [emptySuite]
  next same row _ _ read =>
    subst same
    simpa using read.cons_row

/-- The statements of a suite stand behind its colon, and continued lines behind them. -/
@[spec]
theorem suite_reads (inOrder : inner.InOrder) (nested : Bool) (fuel : Nat) (before : Cursor) :
    ⦃At before⦄ suite inner nested fuel ⦃Reads before (rowsOfTrees ·.parts)⦄ := by
  have line {place : Cursor} (first : Step before [] place) :=
    reads_behind first (simpleLine_reads inOrder fuel (boundary nested) place)
  have empty {place : Cursor} (first : Step before [] place) :=
    reads_behind first (emptySuite_reads (boundary nested) place)
  mvcgen [suite, line, empty]
  all_goals simp_all
  all_goals grind [→ Step.pass]

/-- A suite stands behind its word, if the word stands here. -/
@[spec]
theorem wordSuite_reads (inOrder : inner.InOrder) (nested : Bool) (fuel : Nat) (word : String)
    (before : Cursor) :
    ⦃At before⦄ wordSuite inner nested fuel word ⦃Reads before rowsOfTrees⦄ := by
  mvcgen [wordSuite]
  all_goals simp_all
  all_goals grind

/-- A condition stands between its word and its suite. -/
@[spec]
theorem conditionSuite_reads (inOrder : inner.InOrder) (nested : Bool) (fuel : Nat)
    (word : String) (before : Cursor) :
    ⦃At before⦄ conditionSuite inner nested fuel word ⦃Reads before rowsOfTrees⦄ := by
  mvcgen [conditionSuite]
  all_goals simp_all
  all_goals grind

/-- An `elif` is read in order if one stands here. -/
@[spec]
theorem elif?_reads (inOrder : inner.InOrder) (nested : Bool) (fuel : Nat) (before : Cursor) :
    ⦃At before⦄ elif? inner nested fuel ⦃Reads before fun found => found.elim [] rowsOfTrees⦄ := by
  mvcgen [elif?]
  all_goals simp_all
  all_goals grind

/-- The alternatives of an `if` stand in order behind its suite. -/
@[spec]
theorem ifStatement_reads (inOrder : inner.InOrder) (nested : Bool) (fuel : Nat) (before : Cursor) :
    ⦃At before⦄ ifStatement inner nested fuel ⦃Reads before rowsOfTrees⦄ := by
  have others := many_reads (elif?_reads inOrder nested fuel) fuel
  mvcgen [ifStatement, others]
  all_goals simp_all
  all_goals grind

/-- The places, values and suites of a loop stand in order. -/
@[spec]
theorem forStatement_reads (inOrder : inner.InOrder) (nested : Bool) (fuel : Nat)
    (before : Cursor) :
    ⦃At before⦄ forStatement inner nested fuel ⦃Reads before rowsOfTrees⦄ := by
  mvcgen [forStatement]
  all_goals simp_all
  all_goals grind

/-- A handler is read in order if one stands here. -/
@[spec]
theorem handler?_reads (inOrder : inner.InOrder) (nested : Bool) (fuel : Nat) (before : Cursor) :
    ⦃At before⦄ handler? inner nested fuel
    ⦃Reads before fun found => found.elim [] rowsOfTrees⦄ := by
  mvcgen [handler?]
  all_goals simp_all
  all_goals grind

/-- The handlers of a `try` stand in order behind its suite. -/
@[spec]
theorem tryStatement_reads (inOrder : inner.InOrder) (nested : Bool) (fuel : Nat)
    (before : Cursor) :
    ⦃At before⦄ tryStatement inner nested fuel ⦃Reads before rowsOfTrees⦄ := by
  have handlers := many_reads (handler?_reads inOrder nested fuel) fuel
  mvcgen [tryStatement, handlers]
  all_goals simp_all
  all_goals grind

/-- What a `with` holds stands in front of its suite. -/
@[spec]
theorem withStatement_reads (inOrder : inner.InOrder) (nested : Bool) (fuel : Nat)
    (before : Cursor) :
    ⦃At before⦄ withStatement inner nested fuel ⦃Reads before rowsOfTrees⦄ := by
  mvcgen [withStatement]
  all_goals simp_all
  all_goals grind

/-! ## Definitions -/

/-- A function runs from the row of its first word on, which stands in front of its `def`. -/
@[spec]
theorem functionDefinition_reads (inOrder : inner.InOrder) (nested : Bool) (fuel : Nat)
    {start before : Cursor} (first : Step start [] before) :
    ⦃At before⦄ functionDefinition inner nested fuel start.row ⦃Reads start rowsOfTrees⦄ := by
  mvcgen [functionDefinition]
  all_goals simp_all
  all_goals grind [→ Step.pass, Step.cons_row]

/-- The bases of a class stand in front of its suite. -/
@[spec]
theorem classDefinition_reads (inOrder : inner.InOrder) (nested : Bool) (fuel : Nat)
    (before : Cursor) :
    ⦃At before⦄ classDefinition inner nested fuel ⦃Reads before rowsOfTrees⦄ := by
  mvcgen [classDefinition]
  all_goals simp_all
  all_goals grind [→ Step.pass, Step.cons_row]

/-- A function or class is read in order. -/
@[spec]
theorem definition_reads (inOrder : inner.InOrder) (nested : Bool) (fuel : Nat) (before : Cursor) :
    ⦃At before⦄ definition inner nested fuel ⦃Reads before rowsOfTrees⦄ := by
  mvcgen [definition]
  all_goals simp_all
  all_goals grind [→ Step.pass]

/-- A decorator is read in order if one stands here. -/
@[spec]
theorem decorator?_reads (inOrder : inner.InOrder) (before : Cursor) :
    ⦃At before⦄ decorator? inner ⦃Reads before fun found => found.elim [] Tree.rows⦄ := by
  mvcgen [decorator?]
  all_goals simp_all
  all_goals grind [→ Step.pass]

/-- The decorators of a definition stand in order in front of it. -/
@[spec]
theorem decorated_reads (inOrder : inner.InOrder) (nested : Bool) (fuel : Nat) (before : Cursor) :
    ⦃At before⦄ decorated inner nested fuel ⦃Reads before Tree.rows⦄ := by
  have decorators := many_reads (decorator?_reads inOrder) fuel
  mvcgen [decorated, decorators]
  all_goals simp_all
  all_goals grind

/-! ## Cases -/

/-- The patterns of a case stand in order. -/
@[spec]
theorem casePatterns_reads (inOrder : inner.InOrder) (fuel : Nat) (before : Cursor) :
    ⦃At before⦄ case?.casePatterns inner fuel ⦃Reads before rowsOfTrees⦄ := by
  induction fuel generalizing before with
  | zero => mvcgen [case?.casePatterns]
  | succ fuel ih =>
    mvcgen [case?.casePatterns, ih]
    all_goals simp_all
    all_goals grind

/-- A case is read in order if one stands here. -/
@[spec]
theorem case?_reads (inOrder : inner.InOrder) (fuel : Nat) (before : Cursor) :
    ⦃At before⦄ case? inner fuel ⦃Reads before fun found => found.elim [] rowsOfTrees⦄ := by
  mvcgen [case?]
  all_goals simp_all
  all_goals grind

/-- The cases of a `match` stand in order behind its subject. -/
@[spec]
theorem matchStatement_reads (inOrder : inner.InOrder) (nested : Bool) (fuel : Nat)
    (before : Cursor) :
    ⦃At before⦄ matchStatement inner nested fuel ⦃Reads before rowsOfTrees⦄ := by
  have cases := many_reads (case?_reads inOrder fuel) fuel
  have empty := emptySuite_reads (boundary nested)
  mvcgen [matchStatement, cases, empty]
  all_goals simp_all
  all_goals grind [→ Step.pass]

/-! ## A source -/

/-- Parts that are put into one group keep their rows. -/
@[spec]
theorem grouped_reads {parts : Reader (List Tree)} {before : Cursor}
    (parts_read : ⦃At before⦄ parts ⦃Reads before rowsOfTrees⦄) :
    ⦃At before⦄ statement.grouped parts ⦃Reads before rowsOfTrees⦄ := by
  mvcgen [statement.grouped, parts_read]
  all_goals simp_all

/-- A statement, or the statements of a line, are read in order. -/
@[spec]
theorem statement_reads (inOrder : inner.InOrder) (nested : Bool) (fuel : Nat) (before : Cursor) :
    ⦃At before⦄ statement inner nested fuel ⦃Reads before rowsOfTrees⦄ := by
  have line := simpleLine_reads inOrder fuel (boundary nested)
  mvcgen [statement, tokenBehind, line]
  all_goals simp_all
  all_goals grind

/-- Statements and the comments between them stand in order. -/
@[spec]
theorem statements_reads (inOrder : inner.InOrder) (nested : Bool) (fuel : Nat) (before : Cursor) :
    ⦃At before⦄ statements inner nested fuel ⦃Reads before rowsOfTrees⦄ := by
  induction fuel generalizing before with
  | zero => mvcgen [statements]
  | succ fuel ih =>
    have first (place : Cursor) := located_reads place (statement_reads inOrder nested fuel place)
    mvcgen [statements, ih, first]
    all_goals simp_all +zetaDelta
    all_goals grind

/-- Readers of every level read in source order. -/
theorem readers_inOrder (fuel : Nat) : (readers fuel).InOrder := by
  induction fuel with
  | zero =>
    exact ⟨fun _ => fail_reads, fail_reads, fun _ => fail_reads, fun _ => fail_reads, fail_reads⟩
  | succ fuel ih =>
    exact
      { expression := fun follow before => expression_reads ih fuel follow before
        interpolation := fun before => interpolation_reads ih fuel before
        annotation := fun follow before => annotation_reads ih true fuel follow before
        casePattern := fun follow before => casePattern_reads ih fuel follow before
        block := fun before => statements_reads ih true fuel before }

/-- The syntax tree of a source lies in it. -/
theorem parse_lieIn {source : List Char} {trees : List Tree} (parsed : parse source = .ok trees) :
    LieIn trees source := by
  have opened := next_further (boundary false) {} source 0 {}
  rw [parse] at parsed
  split at parsed
  · next after read =>
    obtain rfl := Except.ok.inj parsed
    have step := reads_iff.mp (statements_reads (readers_inOrder _) false _ _) _ _ read
    have last : after.row ≤ source.count '\n' :=
      calc after.row
        _ ≤ after.row + rowsIn after.rest := Nat.le_add_right _ _
        _ ≤ _ := step.counted
        _ ≤ 0 + rowsIn source := opened.counted
        _ = source.count '\n' := Nat.zero_add _
    exact ((Ascend.nil (Nat.zero_le _)).append step.ascend).later last
  · contradiction

end SourceOutline.Grammar
