import SourceOutline.Outline.Table
import SourceOutline.Proofs.Pattern.Backtracking
import SourceOutline.Proofs.Text.Trim

/-!
# Patterns that need ink

A pattern needs ink when each of its texts has a character that is not blank. Such a pattern
matches nowhere in a blank text. Every line pattern of every language needs ink, which a
computation over the tables shows.
-/

namespace SourceOutline

namespace Text

/-- No word character is blank. -/
theorem isWordChar_eq_false {c : Char} (blank : isBlank c = true) : isWordChar c = false :=
  eq_false_of_isBlank (by decide +kernel) blank

end Text

namespace Pattern

open Text

/-- No blank belongs to the member. -/
def ClassItem.excludesBlanks : ClassItem → Bool
  | char c => !isBlank c
  | range low high => blankCodes.all fun code => code < low.toNat || high.toNat < code
  | word => true
  | blank => false

/-- No blank belongs to the class. -/
def CharClass.excludesBlanks (cls : CharClass) : Bool :=
  if cls.negated then cls.items.contains .blank else cls.items.all ClassItem.excludesBlanks

/-- An item that excludes blanks holds of no blank. -/
theorem ClassItem.holds_eq_false {item : ClassItem} (excludes : item.excludesBlanks = true)
    {c : Char} (blank : isBlank c = true) : item.holds c = false := by
  cases item with
  | char d =>
    rw [ClassItem.holds, beq_eq_false_iff_ne]
    rintro rfl
    simp [ClassItem.excludesBlanks, blank] at excludes
  | range low high =>
    have outside := List.all_eq_true.mp excludes c.toNat (mem_blankCodes blank)
    simp only [Bool.or_eq_true, decide_eq_true_eq] at outside
    simp only [ClassItem.holds, Bool.and_eq_false_iff, decide_eq_false_iff_not, Char.le_def,
      UInt32.le_iff_toNat_le]
    exact outside.imp Nat.not_le_of_lt Nat.not_le_of_lt
  | word => exact isWordChar_eq_false blank
  | blank => contradiction

/-- A class that excludes blanks holds of no blank. -/
theorem CharClass.holds_eq_false {cls : CharClass} (excludes : cls.excludesBlanks = true) {c : Char}
    (blank : isBlank c = true) : cls.holds c = false := by
  rw [CharClass.excludesBlanks] at excludes
  rw [CharClass.holds]
  split at excludes
  · next negated =>
    have member : cls.items.any (ClassItem.holds c) = true :=
      List.any_eq_true.mpr ⟨.blank, List.contains_iff_mem.mp excludes, blank⟩
    simp [member, negated]
  · next plain =>
    have none : cls.items.any (ClassItem.holds c) = false := by
      rw [List.any_eq_false]
      intro item listed
      simp [item.holds_eq_false (List.all_eq_true.mp excludes item listed) blank]
    simp [none, plain]

/-- Every text of the pattern has a character that is not blank. -/
def needsInk : Pattern → Bool
  | one cls => cls.excludesBlanks
  | seq front back => front.needsInk || back.needsInk
  | alt preferred other => preferred.needsInk && other.needsInk
  | _ => false

/-- The ways through one pattern and what follows: through the first to the second, or into the
first with the second left to do. -/
theorem mem_flatMap_andThen {steps rest : List Step} {pending : List Pattern} {step : Step} :
    step ∈ steps.flatMap (Step.andThen rest pending) ↔
      (∃ edges, ⟨edges, .stop⟩ ∈ steps ∧ ∃ next ∈ rest,
        step = { next with edges := edges ++ next.edges }) ∨
      ∃ edges cls todo, ⟨edges, .take cls todo⟩ ∈ steps ∧
        step = ⟨edges, .take cls (todo ++ pending)⟩ := by
  rw [List.mem_flatMap]
  constructor
  · rintro ⟨⟨edges, move⟩, listed, goes⟩
    cases move with
    | stop =>
      obtain ⟨next, follows, rfl⟩ := List.mem_map.mp goes
      exact Or.inl ⟨edges, listed, next, follows, rfl⟩
    | take cls todo => exact Or.inr ⟨edges, cls, todo, listed, List.mem_singleton.mp goes⟩
  · rintro (⟨edges, listed, next, follows, rfl⟩ | ⟨edges, cls, todo, listed, rfl⟩)
    · exact ⟨_, listed, List.mem_map.mpr ⟨next, follows, rfl⟩⟩
    · exact ⟨_, listed, List.mem_singleton.mpr rfl⟩

/-- The step does not end, and ink is read or still needed. -/
def Step.KeepsInk (step : Step) : Prop :=
  ∃ cls todo, step.move = .take cls todo ∧
    (cls.excludesBlanks = true ∨ todo.any needsInk = true)

/-- A way into a pattern that needs ink reads it or leaves it to do. -/
theorem keepsInk_of_mem_steps {site : Site} {pattern : Pattern} {step : Step}
    (needs : pattern.needsInk = true) (listed : step ∈ steps site pattern) : step.KeepsInk := by
  induction pattern generalizing step with
  | one cls =>
    rw [steps, List.mem_singleton] at listed
    subst listed
    exact ⟨cls, [], rfl, Or.inl needs⟩
  | seq front back ihFront ihBack =>
    rw [needsInk, Bool.or_eq_true] at needs
    rw [steps, mem_flatMap_andThen] at listed
    rcases listed with ⟨edges, through, next, follows, rfl⟩ | ⟨edges, cls, todo, into, rfl⟩
    · rcases needs with front | back
      · obtain ⟨cls, todo, stays, _⟩ := ihFront front through
        contradiction
      · obtain ⟨cls, todo, move, keeps⟩ := ihBack back follows
        exact ⟨cls, todo, move, keeps⟩
    · rcases needs with front | back
      · obtain ⟨_, _, same, keeps⟩ := ihFront front into
        cases same
        exact ⟨cls, todo ++ [_], rfl, keeps.imp_right fun left => by simp [left]⟩
      · exact ⟨cls, todo ++ [_], rfl, Or.inr (by simp [back])⟩
  | alt preferred other ihPreferred ihOther =>
    rw [needsInk, Bool.and_eq_true] at needs
    rcases List.mem_append.mp listed with better | worse
    · exact ihPreferred needs.1 better
    · exact ihOther needs.2 worse
  | empty | star | mark | textStart | textEnd | lineStart | lineEnd | wordEdge => contradiction

/-- The same for patterns to be matched one after the other. -/
theorem keepsInk_of_mem_stepsOfList {site : Site} {todo : List Pattern} {step : Step}
    (needs : todo.any needsInk = true) (listed : step ∈ stepsOfList site todo) :
    step.KeepsInk := by
  induction todo generalizing step with
  | nil => contradiction
  | cons pattern todo ih =>
    rw [List.any_cons, Bool.or_eq_true] at needs
    rw [stepsOfList, mem_flatMap_andThen] at listed
    rcases listed with ⟨edges, through, next, follows, rfl⟩ | ⟨edges, cls, inner, into, rfl⟩
    · rcases needs with first | later
      · obtain ⟨cls, todo, stays, _⟩ := keepsInk_of_mem_steps first through
        contradiction
      · obtain ⟨cls, todo, move, keeps⟩ := ih later follows
        exact ⟨cls, todo, move, keeps⟩
    · rcases needs with first | later
      · obtain ⟨_, _, same, keeps⟩ := keepsInk_of_mem_steps first into
        cases same
        exact ⟨cls, inner ++ _, rfl, keeps.imp_right fun left => by simp [left]⟩
      · exact ⟨cls, inner ++ _, rfl, Or.inr (by simp [later])⟩

/-- Where ink is needed, a blank text has no match. -/
theorem attempt_eq_none_of_blank {text : List Char} (blank : ∀ c ∈ text, isBlank c = true)
    {thread : Thread} (needs : thread.todo.any needsInk = true) (before : Option Char)
    (position : Nat) : attempt text before position thread = none := by
  induction text generalizing thread before position with
  | nil =>
    rw [attempt, List.findSome?_eq_none_iff]
    intro step listed
    obtain ⟨cls, todo, move, _⟩ := keepsInk_of_mem_stepsOfList needs listed
    rw [Step.outcome, move]
  | cons c rest ih =>
    rw [attempt, List.findSome?_eq_none_iff]
    intro step listed
    obtain ⟨cls, todo, move, keeps⟩ := keepsInk_of_mem_stepsOfList needs listed
    rw [List.forall_mem_cons] at blank
    rw [Step.outcome, move]
    dsimp only
    rcases keeps with excludes | left
    · rw [cls.holds_eq_false excludes blank.1, if_neg (by simp)]
    · rw [ih blank.2 left, ite_self]

/-- A pattern that needs ink matches nowhere in a blank text. -/
theorem search_eq_none_of_blank {pattern : Pattern} (needs : pattern.needsInk = true)
    {text : List Char} (blank : ∀ c ∈ text, isBlank c = true) : search pattern text = none := by
  have nowhere (before : Option Char) (position : Nat) {text : List Char}
      (blank : ∀ c ∈ text, isBlank c = true) : matchHere pattern before position text = none := by
    rw [matchHere_eq]
    exact attempt_eq_none_of_blank blank (by simp [needs]) before position
  have later (before : Option Char) (position : Nat) :
      searchFrom pattern before position text = none := by
    induction text generalizing before position with
    | nil => exact nowhere before position blank
    | cons c rest ih =>
      rw [searchFrom, nowhere before position blank]
      exact ih (List.forall_mem_cons.mp blank).2 _ _
  rw [search]
  split
  · exact nowhere none 0 blank
  · exact later none 0

end Pattern

namespace Outline

open Text

/-- All patterns of a table. -/
def Table.patterns (table : Table) : List Pattern :=
  table.imports ++ table.functions ++ table.classes ++
    table.block.toList.flatMap fun block => [block.start, block.line, block.stop]

/-- The patterns of imports are patterns of the table. -/
theorem Table.imports_subset (table : Table) : table.imports ⊆ table.patterns :=
  fun _ listed => by simp [Table.patterns, listed]

/-- The patterns of functions are patterns of the table. -/
theorem Table.functions_subset (table : Table) : table.functions ⊆ table.patterns :=
  fun _ listed => by simp [Table.patterns, listed]

/-- The patterns of classes are patterns of the table. -/
theorem Table.classes_subset (table : Table) : table.classes ⊆ table.patterns :=
  fun _ listed => by simp [Table.patterns, listed]

/-- The patterns of an import block are patterns of the table. -/
theorem Table.block_subset {table : Table} {block : ImportBlock}
    (known : table.block = some block) :
    [block.start, block.line, block.stop] ⊆ table.patterns := by
  simp [Table.patterns, known]

/-- The tables of all languages. -/
def Table.all : List Table :=
  [javaScript, typeScript, java, kotlin, scala, c, cpp, objectiveC, objectiveCpp, csharp, go, rust,
    swift, php, ruby, python, shell, powerShell, r]

/-- The table of a language is one of them. -/
theorem Table.mem_all {language : Language} {table : Table}
    (known : Table.forLanguage? language = some table) : table ∈ Table.all := by
  cases language <;> simp only [Table.forLanguage?, Option.some.injEq, reduceCtorEq] at known <;>
    simp [Table.all, ← known]

/-- What holds of every pattern of every table holds of those of a language. -/
theorem Table.of_mem_patterns {test : Pattern → Bool}
    (checked : Table.all.all (·.patterns.all test) = true) {language : Language} {table : Table}
    (known : Table.forLanguage? language = some table) {pattern : Pattern}
    (listed : pattern ∈ table.patterns) : test pattern = true :=
  List.all_eq_true.mp (List.all_eq_true.mp checked table (Table.mem_all known)) pattern listed

/-- Every line pattern of every language needs ink. -/
theorem needsInk_of_mem_patterns {language : Language} {table : Table}
    (known : Table.forLanguage? language = some table) {pattern : Pattern}
    (listed : pattern ∈ table.patterns) : pattern.needsInk = true :=
  Table.of_mem_patterns (by decide +kernel) known listed

end Outline

end SourceOutline
