import SourceOutline.Proofs.Grammar.Rows
import SourceOutline.Proofs.Outline.Definitions
import SourceOutline.Proofs.Text.Lines

/-!
# Lines of nested functions

A definition takes the rows from its first word to the last row of code in its body. Comments
at the end of the body are left out, and in each body these may be other ones. Still the rows
of definitions never overlap in part: a definition inside another takes some of its rows, and
any two others stand one behind the other.
-/

namespace SourceOutline.Outline

open Text Grammar

/-- The last row of a definition: the last that holds code in its body, or its first. -/
def Definition.last (definition : Definition) : Nat :=
  (codeEndOfList? definition.body).getD definition.row

/-- How the rows of a definition lie to those of a later one. -/
structure Laminar (earlier later : Placed) : Prop where
  /-- The later one does not start before. -/
  starts : earlier.2.row ≤ later.2.row
  /-- A definition inside ends inside. -/
  inside : earlier.1 <+: later.1 → later.2.last ≤ earlier.2.last
  /-- Any other starts where the earlier one has ended. -/
  behind : ¬ earlier.1 <+: later.1 → earlier.2.last ≤ later.2.row

/-! ## The rows of a definition -/

/-- The last row of a definition is the last of its part that holds code. -/
theorem Definition.codeEnd?_tree (definition : Definition) :
    definition.tree.codeEnd? = some definition.last := by
  rw [Definition.tree, Tree.codeEnd?, Definition.last]
  cases codeEndOfList? definition.body <;> rfl

/-- The last row of a definition is one of its rows. -/
theorem Definition.last_mem_rows (definition : Definition) :
    definition.last ∈ definition.tree.rows :=
  codeEnd?_mem_rows definition.tree definition.codeEnd?_tree

/-- No row of a definition is before its first. -/
theorem Definition.row_le_of_mem_rows {definition : Definition} {row : Nat}
    (ordered : definition.tree.rows.Pairwise (· ≤ ·)) (listed : row ∈ definition.tree.rows) :
    definition.row ≤ row := by
  rw [Definition.tree, Tree.rows] at ordered listed
  rcases List.mem_cons.mp listed with rfl | inner
  · exact Nat.le_refl _
  · exact List.rel_of_pairwise_cons ordered inner

mutual

/-- The rows of a definition are rows of the tree that it stands in, in the same order. -/
theorem rows_sublist_of_mem_definitionsOfTree (site : Site) (tree : Tree) :
    ∀ entry ∈ definitionsOfTree site tree, entry.2.tree.rows.Sublist tree.rows := by
  intro entry listed
  cases tree with
  | define kind name parameters row body =>
    rcases List.mem_cons.mp listed with rfl | inner
    · exact List.Sublist.refl _
    · exact (rows_sublist_of_mem_definitionsOfTrees site 0 body entry inner).cons row
  | expression parts => exact rows_sublist_of_mem_definitionsOfTrees site 0 parts entry listed
  | group parts => exact rows_sublist_of_mem_definitionsOfTrees site 0 parts entry listed
  | _ => contradiction

/-- The rows of a definition are rows of the trees that it stands in, in the same order. -/
theorem rows_sublist_of_mem_definitionsOfTrees (base : Site) (position : Nat)
    (trees : List Tree) :
    ∀ entry ∈ definitionsOfTrees base position trees,
      entry.2.tree.rows.Sublist (rowsOfTrees trees) := by
  intro entry listed
  cases trees with
  | nil => contradiction
  | cons tree trees =>
    rw [rowsOfTrees]
    rcases List.mem_append.mp listed with first | later
    · exact (rows_sublist_of_mem_definitionsOfTree _ tree entry first).trans
        (List.sublist_append_left _ _)
    · exact (rows_sublist_of_mem_definitionsOfTrees base _ trees entry later).trans
        (List.sublist_append_right _ _)

end

mutual

/-- A tree whose parts stand one behind the other ends with code no earlier than a definition
in it. -/
theorem last_le_codeEnd? (site : Site) (tree : Tree) (ordered : tree.rows.Pairwise (· ≤ ·)) :
    ∀ entry ∈ definitionsOfTree site tree,
      ∃ last, tree.codeEnd? = some last ∧ entry.2.last ≤ last := by
  intro entry listed
  cases tree with
  | define kind name parameters row body =>
    rcases List.mem_cons.mp listed with rfl | inner
    · exact ⟨_, Definition.codeEnd?_tree ⟨kind, name, parameters, row, body⟩, Nat.le_refl _⟩
    · obtain ⟨last, found, low⟩ := last_le_codeEndOfList? site 0 body
        (List.Pairwise.of_cons ordered) entry inner
      exact ⟨last, by rw [Tree.codeEnd?, found]; rfl, low⟩
  | expression parts => exact last_le_codeEndOfList? site 0 parts ordered entry listed
  | group parts => exact last_le_codeEndOfList? site 0 parts ordered entry listed
  | _ => contradiction

/-- Trees that stand one behind the other end with code no earlier than a definition in them. -/
theorem last_le_codeEndOfList? (base : Site) (position : Nat) (trees : List Tree)
    (ordered : (rowsOfTrees trees).Pairwise (· ≤ ·)) :
    ∀ entry ∈ definitionsOfTrees base position trees,
      ∃ last, codeEndOfList? trees = some last ∧ entry.2.last ≤ last := by
  intro entry listed
  cases trees with
  | nil => contradiction
  | cons tree trees =>
    have parts := List.pairwise_append.mp ordered
    rcases List.mem_append.mp listed with first | later
    · obtain ⟨last, found, low⟩ := last_le_codeEnd? _ tree parts.1 entry first
      obtain ⟨behind, whole, high⟩ := le_codeEndOfList?_cons ordered found
      exact ⟨behind, whole, Nat.le_trans low high⟩
    · obtain ⟨last, found, low⟩ := last_le_codeEndOfList? base _ trees parts.2.1 entry later
      exact ⟨last, by rw [codeEndOfList?, found]; rfl, low⟩

end

/-! ## Definitions inside and behind each other -/

/-- A definition and one in its body. -/
theorem laminar_of_mem_body {site : Site} {definition : Definition} {entry : Placed}
    (ordered : definition.tree.rows.Pairwise (· ≤ ·))
    (inner : entry ∈ definitionsOfTrees site 0 definition.body) :
    Laminar (site, definition) entry := by
  have start : site <+: entry.1 := by
    have listed : entry.1 ∈ sitesOfTrees site 0 definition.body := by
      rw [← map_site_definitionsOfTrees]
      exact List.mem_map_of_mem inner
    obtain ⟨position, _, below⟩ := prefix_of_mem_sitesOfTrees site 0 definition.body _ listed
    exact (List.prefix_append site [position]).trans below
  have bodyOrdered : (rowsOfTrees definition.body).Pairwise (· ≤ ·) := List.Pairwise.of_cons ordered
  obtain ⟨last, found, low⟩ := last_le_codeEndOfList? site 0 definition.body bodyOrdered entry inner
  have rows := rows_sublist_of_mem_definitionsOfTrees site 0 definition.body entry inner
  have first : entry.2.row ∈ rowsOfTrees definition.body := rows.subset List.mem_cons_self
  have whole : definition.last = last := by rw [Definition.last, found]; rfl
  exact ⟨List.rel_of_pairwise_cons ordered first, fun _ => whole ▸ low,
    fun outside => absurd start outside⟩

/-- A definition in a tree and one in a later tree below the same place. -/
theorem laminar_of_mem_later {base : Site} {position : Nat} {tree : Tree} {trees : List Tree}
    {earlier later : Placed} (ordered : (rowsOfTrees (tree :: trees)).Pairwise (· ≤ ·))
    (first : earlier ∈ definitionsOfTree (base ++ [position]) tree)
    (second : later ∈ definitionsOfTrees base (position + 1) trees) : Laminar earlier later := by
  have between := (List.pairwise_append.mp ordered).2.2
  have earlierRows := (rows_sublist_of_mem_definitionsOfTree _ tree earlier first).subset
  have laterRows := (rows_sublist_of_mem_definitionsOfTrees base _ trees later second).subset
  have apart : ¬ earlier.1 <+: later.1 := by
    have earlierSite : earlier.1 ∈ sitesOfTree (base ++ [position]) tree := by
      rw [← map_site_definitionsOfTree]
      exact List.mem_map_of_mem first
    have laterSite : later.1 ∈ sitesOfTrees base (position + 1) trees := by
      rw [← map_site_definitionsOfTrees]
      exact List.mem_map_of_mem second
    obtain ⟨taken, high, laterStart⟩ := prefix_of_mem_sitesOfTrees base _ trees _ laterSite
    intro start
    have same := eq_of_concat_prefix
      ((prefix_of_mem_sitesOfTree _ tree _ earlierSite).trans start) laterStart
    omega
  exact ⟨between _ (earlierRows List.mem_cons_self) _ (laterRows List.mem_cons_self),
    fun start => absurd start apart,
    fun _ => between _ (earlierRows earlier.2.last_mem_rows) _ (laterRows List.mem_cons_self)⟩

mutual

/-- The definitions of a tree lie in or behind each other. -/
theorem definitionsOfTree_laminar (site : Site) (tree : Tree)
    (ordered : tree.rows.Pairwise (· ≤ ·)) : (definitionsOfTree site tree).Pairwise Laminar := by
  cases tree with
  | define kind name parameters row body =>
    apply List.Pairwise.cons _ (definitionsOfTrees_laminar site 0 body (.of_cons ordered))
    intro entry inner
    exact laminar_of_mem_body ordered inner
  | expression parts => exact definitionsOfTrees_laminar site 0 parts ordered
  | group parts => exact definitionsOfTrees_laminar site 0 parts ordered
  | _ => exact List.Pairwise.nil

/-- The definitions of trees lie in or behind each other. -/
theorem definitionsOfTrees_laminar (base : Site) (position : Nat) (trees : List Tree)
    (ordered : (rowsOfTrees trees).Pairwise (· ≤ ·)) :
    (definitionsOfTrees base position trees).Pairwise Laminar := by
  cases trees with
  | nil => exact List.Pairwise.nil
  | cons tree trees =>
    have parts := List.pairwise_append.mp ordered
    rw [definitionsOfTrees, List.pairwise_append]
    exact ⟨definitionsOfTree_laminar _ tree parts.1,
      definitionsOfTrees_laminar base _ trees parts.2.1,
      fun earlier first later second => laminar_of_mem_later ordered first second⟩

end

/-! ## The records of functions -/

section Records

variable {trees : List Tree} {source : List Char} {earlier later : Placed}

/-- The functions of a source lie in or behind each other. -/
theorem placedFunctions_laminar (placed : LieIn trees source) :
    (placedFunctions trees).Pairwise Laminar :=
  (definitionsOfTrees_laminar [] 0 trees placed.ordered).sublist List.filter_sublist

/-- A function takes at least its first row, and its rows are rows of the source. -/
theorem row_le_last_of_mem (placed : LieIn trees source) (listed : later ∈ placedFunctions trees) :
    later.2.row ≤ later.2.last ∧ later.2.last < (splitLines source).length := by
  have rows :=
    rows_sublist_of_mem_definitionsOfTrees [] 0 trees later (List.mem_of_mem_filter listed)
  refine ⟨Definition.row_le_of_mem_rows (placed.ordered.sublist rows) later.2.last_mem_rows, ?_⟩
  have inside := placed.below _ (rows.subset later.2.last_mem_rows)
  rw [length_splitLines]
  omega

/-- The last line of a record is that of the last row of its definition. -/
theorem endLine_record (placed : LieIn trees source) (listed : later ∈ placedFunctions trees) :
    (later.2.record (splitLines source)).endLine = later.2.last + 1 := by
  have inside := (row_le_last_of_mem placed listed).2
  have clipped : min later.2.last ((splitLines source).length - 1) = later.2.last := by omega
  rw [show (later.2.record (splitLines source)).endLine =
    min later.2.last ((splitLines source).length - 1) + 1 from rfl, clipped]

/-- The text of a record is the lines from its first row to its last. -/
theorem sourceSlice_record (placed : LieIn trees source) (listed : later ∈ placedFunctions trees) :
    (later.2.record (splitLines source)).sourceSlice.toList =
      joinLines (((splitLines source).drop later.2.row).take
        (later.2.last + 1 - later.2.row)) := by
  obtain ⟨ordered, inside⟩ := row_le_last_of_mem placed listed
  rw [show (later.2.record (splitLines source)).sourceSlice.toList =
    (String.ofList (sliceLines (splitLines source) later.2.row later.2.last)).toList from rfl,
    String.toList_ofList, sliceLines_eq (by omega) ordered]

/-- The text of a function inside another is made of whole lines of its text. -/
theorem wholeLines_of_laminar (placed : LieIn trees source)
    (earlierListed : earlier ∈ placedFunctions trees) (laterListed : later ∈ placedFunctions trees)
    (starts : earlier.2.row ≤ later.2.row) (stops : later.2.last ≤ earlier.2.last) :
    WholeLines (later.2.record (splitLines source)).sourceSlice.toList
      (earlier.2.record (splitLines source)).sourceSlice.toList := by
  rw [sourceSlice_record placed laterListed, sourceSlice_record placed earlierListed]
  apply wholeLines_joinLines (range_within _ starts stops)
  obtain ⟨ordered, inside⟩ := row_le_last_of_mem placed laterListed
  rw [← List.length_pos_iff, List.length_take, List.length_drop]
  omega

/-- A function stands in another exactly where its place goes on from the other's. -/
theorem mem_enclosingSites_of_lt (earlierListed : earlier ∈ placedFunctions trees)
    (ordered : earlier.1 < later.1) :
    earlier.1 ∈ enclosingSites trees later.1 ↔ earlier.1 <+: later.1 := by
  obtain ⟨site, definition⟩ := earlier
  have found := (mem_placedFunctions.mp earlierListed).1
  rw [mem_enclosingSites]
  refine ⟨fun around => around.1, fun start => ⟨start, ?_, ?_⟩⟩
  · intro same
    exact List.lt_irrefl _ (same ▸ ordered)
  · rw [definesAt, found]
    rfl

end Records

/-- For every syntax tree whose parts lie in the source one behind the other, the records of
functions come in the order of their first lines, and of any two the later one either is of a
function inside the earlier one's and takes some of its lines, or starts no earlier than the
other ends. So leaving out comments at the end of a function never cuts a function out of the
text of one that encloses it. -/
theorem ofTrees_lines_laminar (trees : List Tree) (source : List Char)
    (placed : LieIn trees source) :
    let records := (ofTrees trees source).functions
    let functions := placedFunctions trees
    (∀ site definition, (site, definition) ∈ functions ↔ FunctionAt trees site definition) ∧
    records = functions.map (·.2.record (splitLines source)) ∧
    records.Pairwise (·.startLine ≤ ·.startLine) ∧
    ∀ (first second : Nat) earlier later outer inner, first < second →
      records[first]? = some earlier → records[second]? = some later →
      functions[first]? = some outer → functions[second]? = some inner →
      (outer.1 ∈ enclosingSites trees inner.1 →
        earlier.startLine ≤ later.startLine ∧ later.startLine ≤ later.endLine ∧
          later.endLine ≤ earlier.endLine ∧
          WholeLines later.sourceSlice.toList earlier.sourceSlice.toList) ∧
      (outer.1 ∉ enclosingSites trees inner.1 → earlier.endLine ≤ later.startLine) := by
  intro records functions
  have views : records = functions.map (·.2.record (splitLines source)) :=
    functions_ofTrees trees source
  have laminar : functions.Pairwise Laminar := placedFunctions_laminar placed
  refine ⟨fun site definition => mem_placedFunctions, views, ?_, ?_⟩
  · rw [views, List.pairwise_map]
    exact laminar.imp fun lies => Nat.succ_le_succ lies.starts
  · intro first second earlier later outer inner before earlierPlaced laterPlaced outerPlaced
      innerPlaced
    have outerListed := List.mem_of_getElem? outerPlaced
    have innerListed := List.mem_of_getElem? innerPlaced
    obtain rfl : outer.2.record (splitLines source) = earlier := by
      simpa [views, outerPlaced] using earlierPlaced
    obtain rfl : inner.2.record (splitLines source) = later := by
      simpa [views, innerPlaced] using laterPlaced
    obtain ⟨outerInside, outerSame⟩ := List.getElem?_eq_some_iff.mp outerPlaced
    obtain ⟨innerInside, innerSame⟩ := List.getElem?_eq_some_iff.mp innerPlaced
    have lies := List.pairwise_iff_getElem.mp laminar first second outerInside innerInside before
    have order := List.pairwise_iff_getElem.mp (placedFunctions_pairwise trees) first second
      outerInside innerInside before
    rw [outerSame, innerSame] at lies order
    rw [mem_enclosingSites_of_lt outerListed order, endLine_record placed outerListed,
      endLine_record placed innerListed]
    exact ⟨fun around => ⟨Nat.succ_le_succ lies.starts,
      Nat.succ_le_succ (row_le_last_of_mem placed innerListed).1,
      Nat.succ_le_succ (lies.inside around),
      wholeLines_of_laminar placed outerListed innerListed lies.starts (lies.inside around)⟩,
      fun apart => Nat.succ_le_succ (lies.behind apart)⟩

/-- A function inside another, each with a comment behind its code, and behind them a function
with nothing but a comment in it. -/
def commentedTrees : List Tree :=
  [.define .function "outer".toList [] 0
      [.group [.token 1, .define .function "inner".toList [] 1 [.token 2, .comment 3]], .comment 4],
    .comment 5, .define .function "bare".toList [] 6 [.comment 6]]

/-- The lines of the functions above. -/
def commentedLines : List Char :=
  "def outer():\n  if x: def inner():\n    pass\n    # a\n  # b\n# c\ndef bare(): # d".toList

/-- Comments are left out of both functions, and the text of the inner one is still part of that
of the outer one. -/
theorem ofTrees_commentedTrees :
    LieIn commentedTrees commentedLines ∧
    (ofTrees commentedTrees commentedLines).functions.map
      (fun record => (record.name, record.startLine, record.endLine)) =
      [("outer", 1, 3), ("inner", 2, 3), ("bare", 7, 7)] ∧
    ∃ outer inner bare,
      (ofTrees commentedTrees commentedLines).functions = [outer, inner, bare] ∧
      WholeLines inner.sourceSlice.toList outer.sourceSlice.toList ∧
      inner.endLine ≤ outer.endLine ∧ outer.endLine ≤ bare.startLine := by
  have placed : LieIn commentedTrees commentedLines :=
    ⟨by decide, by decide, by decide, by decide⟩
  obtain ⟨_, _, _, lies⟩ := ofTrees_lines_laminar commentedTrees commentedLines placed
  obtain ⟨_, _, ends, whole⟩ := (lies 0 1 _ _ _ _ (by decide) rfl rfl rfl rfl).1 (by decide)
  have behind := (lies 0 2 _ _ _ _ (by decide) rfl rfl rfl rfl).2 (by decide)
  exact ⟨placed, by decide +kernel, _, _, _, rfl, whole, ends, behind⟩

end SourceOutline.Outline
