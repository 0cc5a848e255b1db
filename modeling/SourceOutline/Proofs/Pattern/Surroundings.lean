import SourceOutline.Proofs.Pattern.LineEnd

/-!
# Matches between further lines

To a pattern that nowhere asks for the start or the end of the text, both look like a line feed:
a line starts behind each and ends in front of each, and neither is a word character. So where such
a pattern matches in a text, it matches with further lines in front of the text and behind it.
-/

namespace SourceOutline.Pattern

open Text

/-- The pattern does not ask for the start or the end of the text. -/
def ignoresTextEdges : Pattern → Bool
  | textStart | textEnd => false
  | seq front back => front.ignoresTextEdges && back.ignoresTextEdges
  | alt preferred other => preferred.ignoresTextEdges && other.ignoresTextEdges
  | star round => round.ignoresTextEdges
  | _ => true

/-- The pattern and all that can be left of it to match do not ask for the start or the end of the
text. -/
def readsLines (pattern : Pattern) : Bool :=
  pattern.ignoresTextEdges && pattern.leaves (·.all ignoresTextEdges) []

/-! ## One position -/

/-- The same character, or a line feed where the text had its edge. -/
def Widens (inner outer : Option Char) : Prop :=
  outer = inner ∨ inner = none ∧ outer = some '\n'

namespace Widens

variable {inner outer : Option Char}

/-- A wider border is the edge of a line just where the narrow one is. -/
theorem all_feed (widens : Widens inner outer) :
    outer.all (· == '\n') = inner.all (· == '\n') := by
  rcases widens with rfl | ⟨rfl, rfl⟩ <;> rfl

/-- A wider border is the edge of a word just where the narrow one is. -/
theorem any_isWordChar (widens : Widens inner outer) :
    outer.any isWordChar = inner.any isWordChar := by
  rcases widens with rfl | ⟨rfl, rfl⟩
  · rfl
  · decide

end Widens

section Site

variable {before after outerBefore outerAfter : Option Char} (starts : Widens before outerBefore)
  (stops : Widens after outerAfter)

include starts stops

/-- The ways into a pattern are the same where the edges of the text became line feeds. -/
theorem steps_widens {pattern : Pattern} (ignores : pattern.ignoresTextEdges = true) :
    steps ⟨outerBefore, outerAfter⟩ pattern = steps ⟨before, after⟩ pattern := by
  induction pattern with
  | seq front back ihFront ihBack =>
    obtain ⟨first, second⟩ := Bool.and_eq_true_iff.mp ignores
    rw [steps, steps, ihFront first, ihBack second]
  | alt preferred other ihPreferred ihOther =>
    obtain ⟨first, second⟩ := Bool.and_eq_true_iff.mp ignores
    rw [steps, steps, ihPreferred first, ihOther second]
  | star round ih => rw [steps, steps, ih ignores]
  | lineStart => rw [steps, steps, starts.all_feed]
  | lineEnd => rw [steps, steps, stops.all_feed]
  | wordEdge =>
    rw [steps, steps, Site.atWordEdge, Site.atWordEdge, starts.any_isWordChar,
      stops.any_isWordChar]
  | textStart | textEnd => contradiction
  | empty | one | mark => rfl

/-- Patterns that ignore the edges of the text go on alike at wider borders. -/
theorem stepsOfList_widens {todo : List Pattern} (ignores : todo.all ignoresTextEdges = true) :
    stepsOfList ⟨outerBefore, outerAfter⟩ todo = stepsOfList ⟨before, after⟩ todo := by
  induction todo with
  | nil => rfl
  | cons pattern todo ih =>
    rw [List.all_cons, Bool.and_eq_true] at ignores
    rw [stepsOfList, stepsOfList, steps_widens starts stops ignores.1, ih ignores.2]

end Site

/-! ## A match at one place -/

/-- What is left to match can be matched in front of further lines too. -/
theorem isSome_attempt_append {todo : List Pattern} (ignores : todo.all ignoresTextEdges = true)
    (checked : leavesOfList (·.all ignoresTextEdges) todo = true) (below : List Char)
    {text : List Char} {inner outer : Option Char} (widens : Widens inner outer)
    {position : Nat} {capture : Capture}
    (found : (attempt text inner position ⟨todo, capture⟩).isSome = true) (place : Nat)
    (other : Capture) :
    (attempt (text ++ '\n' :: below) outer place ⟨todo, other⟩).isSome = true := by
  induction text generalizing todo inner outer position capture place other with
  | nil =>
    have same : stepsOfList ⟨outer, some '\n'⟩ todo = stepsOfList ⟨inner, none⟩ todo :=
      stepsOfList_widens widens (Or.inr ⟨rfl, rfl⟩) ignores
    rw [attempt, List.isSome_findSome?, List.any_eq_true] at found
    obtain ⟨⟨edges, move⟩, listed, ends⟩ := found
    rw [List.nil_append, attempt, List.isSome_findSome?, List.any_eq_true, same]
    -- The match ends at the end of the text, and so it ends in front of the line feed.
    cases move with
    | stop => exact ⟨_, listed, rfl⟩
    | take cls rest => contradiction
  | cons c text ih =>
    have same : stepsOfList ⟨outer, some c⟩ todo = stepsOfList ⟨inner, some c⟩ todo :=
      stepsOfList_widens widens (Or.inl rfl) ignores
    rw [attempt, List.isSome_findSome?, List.any_eq_true] at found
    obtain ⟨⟨edges, move⟩, listed, goes⟩ := found
    rw [List.cons_append, attempt, List.isSome_findSome?, List.any_eq_true, same]
    refine ⟨⟨edges, move⟩, listed, ?_⟩
    cases move with
    | stop => rfl
    | take cls rest =>
      obtain ⟨later, goesOn⟩ := leaves_of_mem_stepsOfList checked listed
      rw [Step.outcome] at goes ⊢
      dsimp only at goes ⊢
      by_cases holds : cls.holds c = true
      · rw [if_pos holds] at goes ⊢
        exact ih later goesOn (Or.inl rfl) goes _ _
      · rw [if_neg holds] at goes
        contradiction

/-- A pattern that reads lines matches in front of further lines where it matched before. -/
theorem isSome_matchHere_append {pattern : Pattern} (reads : pattern.readsLines = true)
    (below : List Char) {text : List Char} {inner outer : Option Char}
    (widens : Widens inner outer) {position : Nat}
    (found : (matchHere pattern inner position text).isSome = true) (place : Nat) :
    (matchHere pattern outer place (text ++ '\n' :: below)).isSome = true := by
  obtain ⟨ignores, left⟩ := Bool.and_eq_true_iff.mp reads
  rw [matchHere_eq] at found ⊢
  exact isSome_attempt_append (by simp [ignores]) (by simp [leavesOfList, left]) below widens found
    place _

/-! ## A match at any place -/

/-- A search succeeds here or further on. -/
theorem isSome_searchFrom_cons (pattern : Pattern) (before : Option Char) (position : Nat)
    (c : Char) (rest : List Char) :
    (searchFrom pattern before position (c :: rest)).isSome =
      ((matchHere pattern before position (c :: rest)).isSome ||
        (searchFrom pattern (some c) (position + 1) rest).isSome) := by
  rw [searchFrom]
  cases matchHere pattern before position (c :: rest) <;> rfl

/-- Further lines behind the text take no match away. -/
theorem isSome_searchFrom_append {pattern : Pattern} (reads : pattern.readsLines = true)
    (below : List Char) {text : List Char} {inner outer : Option Char}
    (widens : Widens inner outer) {position : Nat}
    (found : (searchFrom pattern inner position text).isSome = true) (place : Nat) :
    (searchFrom pattern outer place (text ++ '\n' :: below)).isSome = true := by
  induction text generalizing inner outer position place with
  | nil =>
    have here := isSome_matchHere_append reads below widens found place
    rw [List.nil_append] at here ⊢
    rw [isSome_searchFrom_cons, here, Bool.true_or]
  | cons c text ih =>
    rw [isSome_searchFrom_cons, Bool.or_eq_true] at found
    rw [List.cons_append, isSome_searchFrom_cons, Bool.or_eq_true]
    rcases found with here | later
    · exact Or.inl (isSome_matchHere_append reads below widens here place)
    · exact Or.inr (ih (Or.inl rfl) later _)

/-- What stands in front of the text takes no match away. -/
theorem isSome_searchFrom_behind {pattern : Pattern} (above : List Char) {last : Char}
    {text : List Char}
    (found : ∀ position, (searchFrom pattern (some last) position text).isSome = true)
    (before : Option Char) (place : Nat) :
    (searchFrom pattern before place (above ++ last :: text)).isSome = true := by
  induction above generalizing before place with
  | nil => rw [List.nil_append, isSome_searchFrom_cons, found, Bool.or_true]
  | cons c above ih => rw [List.cons_append, isSome_searchFrom_cons, ih, Bool.or_true]

/-- A match of a pattern that does not ask for the start of the text may start anywhere. -/
theorem isAnchored_eq_false {pattern : Pattern} (ignores : pattern.ignoresTextEdges = true) :
    pattern.isAnchored = false := by
  induction pattern with
  | seq front back ih _ => exact ih (Bool.and_eq_true_iff.mp ignores).1
  | textStart => contradiction
  | empty | one | alt | star | mark | textEnd | lineStart | lineEnd | wordEdge => rfl

/-- Where a pattern that reads lines matches in a text, it matches with further lines in front of
the text and behind it. -/
theorem isMatch_surrounded {pattern : Pattern} (reads : pattern.readsLines = true)
    {text : List Char} (found : pattern.isMatch text = true) (above below : List Char) :
    pattern.isMatch (above ++ '\n' :: (text ++ '\n' :: below)) = true := by
  have anywhere := isAnchored_eq_false (Bool.and_eq_true_iff.mp reads).1
  rw [isMatch, search, anywhere, if_neg (by simp)] at found ⊢
  exact isSome_searchFrom_behind above
    (isSome_searchFrom_append reads below (Or.inr ⟨rfl, rfl⟩) found) none 0

end SourceOutline.Pattern
