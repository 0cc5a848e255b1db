import Mathlib.Data.List.Basic
import SourceOutline.Proofs.Pattern.Ink

/-!
# Patterns and a carriage return at the end of the text

A pattern does not notice a carriage return at the end of a text when all that can be left to match
there ends alike: with the return behind it, read or not, as without it. What can be left to match
behind a character of a pattern is read off the pattern, so for every line pattern of every language
a computation shows that a return at the end of a line changes nothing about its match.
-/

namespace SourceOutline.Pattern

open Text

/-! ## What can be left to match -/

/-- The test holds of all that can be left to match behind a character of the pattern, with the
patterns behind it. -/
def leaves (test : List Pattern → Bool) : Pattern → List Pattern → Bool
  | one _, behind => test behind
  | seq front back, behind => front.leaves test (back :: behind) && back.leaves test behind
  | alt preferred other, behind => preferred.leaves test behind && other.leaves test behind
  | star round, behind => round.leaves test (star round :: behind)
  | _, _ => true

/-- The same for patterns to be matched one after the other. -/
def leavesOfList (test : List Pattern → Bool) : List Pattern → Bool
  | [] => true
  | pattern :: behind => pattern.leaves test behind && leavesOfList test behind

section Leaves

variable {test : List Pattern → Bool} {site : Site} {edges : List Edge} {cls : CharClass}
  {todo : List Pattern}

/-- There is no character to be read in an empty text. -/
theorem not_take_mem_passIf {condition : Bool}
    (listed : ⟨edges, .take cls todo⟩ ∈ passIf condition) : False := by
  rw [passIf] at listed
  split at listed
  · simp at listed
  · contradiction

/-- The test holds of what a way into the pattern leaves to match, and goes on to hold. -/
theorem leaves_of_mem_steps {pattern : Pattern} {behind : List Pattern}
    (checked : leavesOfList test (pattern :: behind) = true)
    (listed : ⟨edges, .take cls todo⟩ ∈ steps site pattern) :
    test (todo ++ behind) = true ∧ leavesOfList test (todo ++ behind) = true := by
  induction pattern generalizing behind edges todo with
  | one other =>
    simp only [steps, List.mem_singleton, Step.mk.injEq, Move.take.injEq] at listed
    obtain ⟨_, _, rfl⟩ := listed
    exact Bool.and_eq_true_iff.mp checked
  | seq front back ihFront ihBack =>
    simp only [leavesOfList, leaves, Bool.and_eq_true] at checked
    obtain ⟨⟨first, second⟩, later⟩ := checked
    rw [steps, mem_flatMap_andThen] at listed
    rcases listed with ⟨_, _, ⟨_, move⟩, follows, same⟩ | ⟨_, _, inner, into, same⟩
    · cases same
      exact ihBack (by simp [leavesOfList, second, later]) follows
    · cases same
      rw [List.append_assoc]
      exact ihFront (by simp [leavesOfList, first, second, later]) into
  | alt preferred other ihPreferred ihOther =>
    simp only [leavesOfList, leaves, Bool.and_eq_true] at checked
    obtain ⟨⟨first, second⟩, later⟩ := checked
    rcases List.mem_append.mp listed with better | worse
    · exact ihPreferred (by simp [leavesOfList, first, later]) better
    · exact ihOther (by simp [leavesOfList, second, later]) worse
  | star round ih =>
    simp only [leavesOfList, leaves, Bool.and_eq_true] at checked
    rw [steps, List.mem_append, mem_flatMap_andThen] at listed
    rcases listed with (⟨_, _, _, follows, _⟩ | ⟨_, _, inner, into, same⟩) | ends
    · contradiction
    · cases same
      rw [List.append_assoc]
      exact ih (by simp [leavesOfList, leaves, checked]) into
    · simp at ends
  | empty | mark => simp [steps] at listed
  | textStart | textEnd | lineStart | lineEnd | wordEdge => exact (not_take_mem_passIf listed).elim

/-- The same for patterns to be matched one after the other. -/
theorem leaves_of_mem_stepsOfList {left : List Pattern} (checked : leavesOfList test left = true)
    (listed : ⟨edges, .take cls todo⟩ ∈ stepsOfList site left) :
    test todo = true ∧ leavesOfList test todo = true := by
  induction left generalizing edges todo with
  | nil => simp [stepsOfList] at listed
  | cons pattern left ih =>
    rw [stepsOfList, mem_flatMap_andThen] at listed
    rcases listed with ⟨_, _, ⟨_, move⟩, follows, same⟩ | ⟨_, _, inner, into, same⟩
    · cases same
      exact ih (Bool.and_eq_true_iff.mp checked).2 follows
    · cases same
      exact leaves_of_mem_steps checked into

end Leaves

/-! ## The end of the text -/

/-- A character that stands for all in front of which a pattern goes on alike. -/
def sample : Option Char → Option Char
  | none => none
  | some c => if c = '\n' then some '\n' else if isWordChar c then some 'a' else some ' '

/-- Where a pattern goes on depends on what stands in front only as far as the sample tells. -/
theorem steps_sample (before after : Option Char) (pattern : Pattern) :
    steps ⟨before, after⟩ pattern = steps ⟨sample before, after⟩ pattern := by
  have start : before.isNone = (sample before).isNone := by
    cases before with
    | none => rfl
    | some c => rw [sample]; split <;> [rfl; split <;> rfl]
  have line : before.all (· == '\n') = (sample before).all (· == '\n') := by
    cases before with
    | none => rfl
    | some c =>
      rw [sample]
      split
      · next feed => rw [feed]
      · next other => split <;> simp [other]
  have word : before.any isWordChar = (sample before).any isWordChar := by
    cases before with
    | none => rfl
    | some c =>
      rw [sample]
      split
      · next feed => rw [feed]
      · split
        · next word => simp [word]; decide
        · next other => simp [other]; decide
  induction pattern with
  | seq front back ihFront ihBack => rw [steps, steps, ihFront, ihBack]
  | alt preferred other ihPreferred ihOther => rw [steps, steps, ihPreferred, ihOther]
  | star round ih => rw [steps, steps, ih]
  | textStart => rw [steps, steps, start]
  | lineStart => rw [steps, steps, line]
  | wordEdge => rw [steps, steps, Site.atWordEdge, Site.atWordEdge, word]
  | empty | one | mark | textEnd | lineEnd => rfl

/-- Where patterns go on depends on what stands in front only as far as the sample tells. -/
theorem stepsOfList_sample (before after : Option Char) (todo : List Pattern) :
    stepsOfList ⟨before, after⟩ todo = stepsOfList ⟨sample before, after⟩ todo := by
  induction todo with
  | nil => rfl
  | cons pattern todo ih => rw [stepsOfList, stepsOfList, steps_sample, ih]

/-- The edges of the name passed at the end of the text, if the match can end there. -/
def endEdges (before : Option Char) (todo : List Pattern) : Option (List Edge) :=
  (stepsOfList ⟨before, none⟩ todo).findSome? fun step =>
    match step.move with
    | .stop => some step.edges
    | .take _ _ => none

/-- The edges passed in front of a carriage return at the end of the text and behind it, if the
match can end there. -/
def returnEdges (before : Option Char) (todo : List Pattern) : Option (List Edge × List Edge) :=
  (stepsOfList ⟨before, some '\r'⟩ todo).findSome? fun step =>
    match step.move with
    | .stop => some (step.edges, [])
    | .take cls rest =>
      if cls.holds '\r' then (endEdges (some '\r') rest).map (step.edges, ·) else none

/-- With a carriage return and without it, the match cannot end for want of ink, or it ends with
the same edges, all of them in front of the return. -/
def endsAlike (todo : List Pattern) : Bool :=
  todo.any needsInk || [none, some '\n', some 'a', some ' '].all fun before =>
    returnEdges before todo == (endEdges before todo).map (·, [])

/-- A match that still needs ink does not end at the end of the text. -/
theorem endEdges_eq_none {todo : List Pattern} (needs : todo.any needsInk = true)
    (before : Option Char) : endEdges before todo = none := by
  rw [endEdges, List.findSome?_eq_none_iff]
  intro step listed
  obtain ⟨cls, rest, move, _⟩ := keepsInk_of_mem_stepsOfList needs listed
  rw [move]

/-- A match that still needs ink does not end at a carriage return. -/
theorem returnEdges_eq_none {todo : List Pattern} (needs : todo.any needsInk = true)
    (before : Option Char) : returnEdges before todo = none := by
  rw [returnEdges, List.findSome?_eq_none_iff]
  intro step listed
  obtain ⟨cls, rest, move, keeps⟩ := keepsInk_of_mem_stepsOfList needs listed
  rw [move]
  dsimp only
  rcases keeps with excludes | left
  · rw [cls.holds_eq_false excludes (by decide), if_neg (by simp)]
  · rw [endEdges_eq_none left, Option.map_none, ite_self]

/-- Patterns that end alike pass the same edges at a carriage return. -/
theorem returnEdges_eq {todo : List Pattern} (alike : endsAlike todo = true)
    (before : Option Char) : returnEdges before todo = (endEdges before todo).map (·, []) := by
  rw [endsAlike, Bool.or_eq_true] at alike
  rcases alike with needs | alike
  · rw [returnEdges_eq_none needs, endEdges_eq_none needs, Option.map_none]
  have listed : sample before ∈ [none, some '\n', some 'a', some ' '] := by
    cases before with
    | none => simp [sample]
    | some c => rw [sample]; split <;> [simp; split <;> simp]
  have same := beq_iff_eq.mp (List.all_eq_true.mp alike _ listed)
  rwa [returnEdges, endEdges, ← stepsOfList_sample, ← stepsOfList_sample, ← returnEdges,
    ← endEdges] at same

/-- What becomes of a list of steps is read off what becomes of each. -/
theorem findSome?_congr {α β : Type} {items : List α} {f g : α → Option β}
    (same : ∀ item ∈ items, f item = g item) : items.findSome? f = items.findSome? g := by
  rw [← List.head?_filterMap, ← List.head?_filterMap, List.filterMap_congr same]

/-- At the end of the text a match ends with the edges passed there. -/
theorem attempt_nil (before : Option Char) (position : Nat) (thread : Thread) :
    attempt [] before position thread =
      (endEdges before thread.todo).map (thread.capture.note position) := by
  rw [attempt, endEdges, List.map_findSome?]
  apply findSome?_congr
  intro step _
  rw [Step.outcome, Function.comp_apply]
  cases step.move <;> rfl

/-- At a last carriage return a match ends with the edges passed in front of it and behind it. -/
theorem attempt_return (before : Option Char) (position : Nat) (thread : Thread) :
    attempt ['\r'] before position thread =
      (returnEdges before thread.todo).map fun edges =>
        (thread.capture.note position edges.1).note (position + 1) edges.2 := by
  rw [attempt, returnEdges, List.map_findSome?]
  apply findSome?_congr
  intro step _
  rw [Step.outcome, Function.comp_apply]
  cases step.move with
  | stop => rfl
  | take cls rest =>
    dsimp only
    split
    · rw [attempt_nil, Option.map_map]
      rfl
    · rfl

/-! ## Matches and names -/

/-- A carriage return at the end does not matter where all that can be left to match ends alike. -/
theorem attempt_append_return {todo : List Pattern} (alike : endsAlike todo = true)
    (checked : leavesOfList endsAlike todo = true) (text : List Char) (before : Option Char)
    (position : Nat) (capture : Capture) :
    attempt (text ++ ['\r']) before position ⟨todo, capture⟩ =
      attempt text before position ⟨todo, capture⟩ := by
  induction text generalizing todo before position capture with
  | nil =>
    rw [List.nil_append, attempt_return, attempt_nil, returnEdges_eq alike, Option.map_map]
    rfl
  | cons c rest ih =>
    rw [List.cons_append, attempt, attempt]
    apply findSome?_congr
    rintro ⟨edges, move⟩ listed
    rw [Step.outcome, Step.outcome]
    cases move with
    | stop => rfl
    | take cls left =>
      obtain ⟨ends, goesOn⟩ := leaves_of_mem_stepsOfList checked listed
      dsimp only
      rw [ih ends goesOn]

/-- The pattern needs ink and does not notice a carriage return at the end of the text. -/
def ignoresReturn (pattern : Pattern) : Bool :=
  pattern.needsInk && endsAlike [pattern] && pattern.leaves endsAlike []

section Return

variable {pattern : Pattern} (ignores : pattern.ignoresReturn = true)

include ignores

/-- A match is the same with a carriage return at the end of the text. -/
theorem matchHere_append_return (before : Option Char) (position : Nat) (text : List Char) :
    matchHere pattern before position (text ++ ['\r']) =
      matchHere pattern before position text := by
  simp only [ignoresReturn, Bool.and_eq_true] at ignores
  rw [matchHere_eq, matchHere_eq]
  exact attempt_append_return ignores.1.2 (by simp [leavesOfList, ignores.2]) _ _ _ _

/-- A search finds the same match with a carriage return at the end of the text. -/
theorem search_append_return (text : List Char) :
    search pattern (text ++ ['\r']) = search pattern text := by
  have needs : pattern.needsInk = true := by
    simp only [ignoresReturn, Bool.and_eq_true] at ignores
    exact ignores.1.1
  have later (before : Option Char) (position : Nat) :
      searchFrom pattern before position (text ++ ['\r']) =
        searchFrom pattern before position text := by
    induction text generalizing before position with
    | nil =>
      have last : matchHere pattern (some '\r') (position + 1) [] = none := by
        rw [matchHere_eq]
        exact attempt_eq_none_of_blank (by simp) (by simp [needs]) _ _
      rw [List.nil_append, searchFrom, searchFrom, ← List.nil_append ['\r'],
        matchHere_append_return ignores, searchFrom, last]
      cases matchHere pattern before position [] <;> rfl
    | cons c rest ih =>
      rw [List.cons_append, searchFrom, ← List.cons_append, matchHere_append_return ignores,
        searchFrom, ih]
  rw [search, search, later, matchHere_append_return ignores]

/-- A search finds the same name, and behind it the carriage return is added. -/
theorem find?_append_return (text : List Char) :
    find? pattern (text ++ ['\r']) =
      (find? pattern text).map fun found => { found with after := found.after ++ ['\r'] } := by
  rw [find?, find?, search_append_return ignores]
  split
  · next first last found =>
    -- Both edges lie in the text, so each of its three parts is cut off before the return.
    obtain ⟨firstIn, lastIn⟩ := within_of_search found
    replace firstIn := firstIn first rfl
    replace lastIn := lastIn last rfl
    rw [Option.map_some, List.take_append_of_le_length firstIn,
      List.drop_append_of_le_length firstIn, List.take_append_of_le_length (by
        rw [List.length_drop]
        omega), List.drop_append_of_le_length (by omega)]
  · rfl

end Return

end SourceOutline.Pattern

namespace SourceOutline.Outline

/-- No line pattern of any language notices a carriage return at the end of a line. -/
theorem ignoresReturn_of_mem_patterns {language : Language} {table : Table}
    (known : Table.forLanguage? language = some table) {pattern : Pattern}
    (listed : pattern ∈ table.patterns) : pattern.ignoresReturn = true :=
  Table.of_mem_patterns (by decide +kernel) known listed

end SourceOutline.Outline
