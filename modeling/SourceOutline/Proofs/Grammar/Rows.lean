import Mathlib.Data.List.Basic
import SourceOutline.Grammar.Tree

/-!
# Rows of a syntax tree

Parts of a source stand in it one behind the other, and the parts of a part stand inside it. In
rows this says that the rows of the code in a tree, in source order, never decrease. Where they do
not, the last row that holds code is behind every other row of code. Comments hold no code, so
nothing is asked of the rows that they stand in.
-/

namespace SourceOutline.Grammar

/-- The rows of a string, of its opening and its closing quotes. -/
def Literal.rows (literal : Literal) : List Nat := [literal.firstRow, literal.lastRow]

mutual

/-- The rows of the code in a part, in source order, from the first row of each thing in it to
its last. -/
@[simp]
def Tree.rows : Tree → List Nat
  | .token row => [row]
  | .comment _ => []
  | .string literal => literal.rows
  | .strings parts => parts.flatMap Literal.rows
  | .importing _ firstRow lastRow => [firstRow, lastRow]
  | .expression parts => rowsOfTrees parts
  | .group parts => rowsOfTrees parts
  | .define _ _ _ row body => row :: rowsOfTrees body

/-- The rows of the code in parts, in source order. -/
@[simp]
def rowsOfTrees : List Tree → List Nat
  | [] => []
  | tree :: trees => tree.rows ++ rowsOfTrees trees

end

/-- The rows of two lists of trees follow one another. -/
@[simp]
theorem rowsOfTrees_append (front back : List Tree) :
    rowsOfTrees (front ++ back) = rowsOfTrees front ++ rowsOfTrees back := by
  induction front with
  | nil => rfl
  | cons tree trees ih => rw [List.cons_append, rowsOfTrees, rowsOfTrees, ih, List.append_assoc]

/-- The rows of trees are those of each tree in turn. -/
@[simp]
theorem flatMap_rows (trees : List Tree) : trees.flatMap Tree.rows = rowsOfTrees trees := by
  induction trees with
  | nil => rfl
  | cons tree trees ih => rw [List.flatMap_cons, rowsOfTrees, ih]

/-- The rows of trees made of items are those of each item in turn. -/
theorem rowsOfTrees_map {α : Type} (tree : α → Tree) (items : List α) :
    rowsOfTrees (items.map tree) = items.flatMap fun item => (tree item).rows := by
  rw [← flatMap_rows, List.flatMap_map]

/-- Comments hold no code. -/
@[simp]
theorem rowsOfTrees_comments (rows : List Nat) : rowsOfTrees (rows.map Tree.comment) = [] := by
  induction rows with
  | nil => rfl
  | cons row rows ih => rw [List.map_cons, rowsOfTrees, ih, Tree.rows, List.append_nil]

/-- The rows of lists of trees are those of the lists joined. -/
@[simp]
theorem flatMap_rowsOfTrees (lists : List (List Tree)) :
    lists.flatMap rowsOfTrees = rowsOfTrees lists.flatten := by
  induction lists with
  | nil => rfl
  | cons trees lists ih => rw [List.flatMap_cons, List.flatten_cons, rowsOfTrees_append, ih]

/-- Rows that never decrease, from a row on and up to a row. -/
structure Ascend (low : Nat) (rows : List Nat) (high : Nat) : Prop where
  /-- No row is followed by an earlier one. -/
  ordered : rows.Pairwise (· ≤ ·)
  /-- No row is before the first. -/
  above : ∀ row ∈ rows, low ≤ row
  /-- No row is behind the last. -/
  below : ∀ row ∈ rows, row ≤ high
  /-- There is room for a row. -/
  room : low ≤ high

namespace Ascend

variable {low middle high : Nat} {rows front back : List Nat}

/-- No rows at all. -/
theorem nil (room : low ≤ high) : Ascend low [] high := ⟨.nil, by simp, by simp, room⟩

/-- One row. -/
theorem single (row : Nat) : Ascend row [row] row :=
  ⟨List.pairwise_singleton _ row, by simp, by simp, Nat.le_refl row⟩

/-- Rows behind rows. -/
theorem append (first : Ascend low front middle) (second : Ascend middle back high) :
    Ascend low (front ++ back) high where
  ordered := List.pairwise_append.mpr ⟨first.ordered, second.ordered, fun row before later behind =>
    Nat.le_trans (first.below row before) (second.above later behind)⟩
  above row listed := by
    rcases List.mem_append.mp listed with before | behind
    · exact first.above row before
    · exact Nat.le_trans first.room (second.above row behind)
  below row listed := by
    rcases List.mem_append.mp listed with before | behind
    · exact Nat.le_trans (first.below row before) second.room
    · exact second.below row behind
  room := Nat.le_trans first.room second.room

/-- Some of the rows. -/
theorem sublist (ascend : Ascend low rows high) (part : front.Sublist rows) :
    Ascend low front high :=
  ⟨ascend.ordered.sublist part, fun row listed => ascend.above row (part.subset listed),
    fun row listed => ascend.below row (part.subset listed), ascend.room⟩

/-- Rows up to a row are rows up to a later one. -/
theorem later (ascend : Ascend low rows middle) (room : middle ≤ high) : Ascend low rows high := by
  simpa using ascend.append (.nil room)

end Ascend

/-- The code in a syntax tree lies in a source, one part behind the other and parts of a part
inside it. Rows count line feeds. -/
def LieIn (trees : List Tree) (source : List Char) : Prop :=
  Ascend 0 (rowsOfTrees trees) (source.count '\n')

/-! ## The last row that holds code -/

mutual

/-- The last row of code is a row of the tree. -/
theorem codeEnd?_mem_rows (tree : Tree) {last : Nat} (found : tree.codeEnd? = some last) :
    last ∈ tree.rows := by
  cases tree with
  | token row => simpa [Tree.codeEnd?, Tree.rows, eq_comm] using found
  | comment row => simp [Tree.codeEnd?] at found
  | string literal =>
    rw [Tree.codeEnd?, Option.some_inj] at found
    simp [Tree.rows, Literal.rows, found]
  | strings parts =>
    rw [Tree.codeEnd?, Option.map_eq_some_iff] at found
    obtain ⟨literal, last, rfl⟩ := found
    rw [Tree.rows, List.mem_flatMap]
    exact ⟨literal, List.mem_of_getLast? last, by simp [Literal.rows]⟩
  | importing statement firstRow lastRow =>
    rw [Tree.codeEnd?, Option.some_inj] at found
    simp [Tree.rows, found]
  | expression parts => exact codeEndOfList?_mem_rows parts found
  | group parts => exact codeEndOfList?_mem_rows parts found
  | define kind name parameters row body =>
    rw [Tree.codeEnd?] at found
    rw [Tree.rows, List.mem_cons]
    cases inside : codeEndOfList? body with
    | none => simp_all
    | some inner =>
      rw [inside, Option.some_or, Option.some_inj] at found
      exact Or.inr (found ▸ codeEndOfList?_mem_rows body inside)

/-- The last row of code is a row of one of the trees. -/
theorem codeEndOfList?_mem_rows (trees : List Tree) {last : Nat}
    (found : codeEndOfList? trees = some last) : last ∈ rowsOfTrees trees := by
  cases trees with
  | nil => simp [codeEndOfList?] at found
  | cons tree trees =>
    rw [codeEndOfList?] at found
    rw [rowsOfTrees, List.mem_append]
    cases later : codeEndOfList? trees with
    | none =>
      rw [later, Option.none_or] at found
      exact Or.inl (codeEnd?_mem_rows tree found)
    | some behind =>
      rw [later, Option.some_or, Option.some_inj] at found
      exact Or.inr (found ▸ codeEndOfList?_mem_rows trees later)

end

/-- The last row of code of parts one behind the other is behind that of each of them. -/
theorem le_codeEndOfList?_cons {tree : Tree} {trees : List Tree} {last : Nat}
    (ordered : (rowsOfTrees (tree :: trees)).Pairwise (· ≤ ·)) (found : tree.codeEnd? = some last) :
    ∃ behind, codeEndOfList? (tree :: trees) = some behind ∧ last ≤ behind := by
  rw [rowsOfTrees, List.pairwise_append] at ordered
  rw [codeEndOfList?, found]
  cases later : codeEndOfList? trees with
  | none => exact ⟨last, rfl, Nat.le_refl last⟩
  | some behind =>
    exact ⟨behind, rfl, ordered.2.2 last (codeEnd?_mem_rows tree found) behind
      (codeEndOfList?_mem_rows trees later)⟩

end SourceOutline.Grammar
