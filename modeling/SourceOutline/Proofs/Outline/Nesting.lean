import Mathlib.Data.List.Basic
import SourceOutline.Outline.ByTree

/-!
# Nesting of definitions in a syntax tree

A place in a syntax tree is the way to it from the top. One definition encloses another when
its place is a proper beginning of the other's place, whatever stands between the two. The
definitions in source order are those in the lexicographic order of their places, so a
definition is listed behind all that enclose it.
-/

namespace SourceOutline.Grammar

/-- The parts of a tree that definitions can stand in. -/
def Tree.parts : Tree → List Tree
  | .expression parts => parts
  | .group parts => parts
  | .define _ _ _ _ body => body
  | _ => []

/-- A place below a list of trees: the position to take at every step. -/
abbrev Site := List Nat

/-- The tree at a place. -/
def treeAt? : List Tree → Site → Option Tree
  | _, [] => none
  | trees, [position] => trees[position]?
  | trees, position :: next :: rest =>
    trees[position]?.bind fun tree => treeAt? tree.parts (next :: rest)

/-- A class or function is defined at the place. -/
def definesAt (trees : List Tree) (site : Site) : Bool :=
  match treeAt? trees site with
  | some (.define ..) => true
  | _ => false

/-- The places of the definitions around a place, the outermost first. -/
def enclosingSites (trees : List Tree) (site : Site) : List Site :=
  ((List.range site.length).map site.take).filter (definesAt trees)

/-- Every definition has a name that is not empty. -/
def DefinitionsNamed (trees : List Tree) : Prop :=
  ∀ site kind name parameters row body,
    treeAt? trees site = some (.define kind name parameters row body) → name ≠ []

mutual

/-- The places of the definitions in a tree that stands at a place, in source order. -/
def sitesOfTree (site : Site) : Tree → List Site
  | .expression parts => sitesOfTrees site 0 parts
  | .group parts => sitesOfTrees site 0 parts
  | .define _ _ _ _ body => site :: sitesOfTrees site 0 body
  | _ => []

/-- The places of the definitions in trees that stand below a place from a position on. -/
def sitesOfTrees (base : Site) (position : Nat) : List Tree → List Site
  | [] => []
  | tree :: trees =>
    sitesOfTree (base ++ [position]) tree ++ sitesOfTrees base (position + 1) trees

end

/-- The places of all definitions, in source order. -/
def definitionSites (trees : List Tree) : List Site := sitesOfTrees [] 0 trees

/-! ## Places -/

/-- The tree at a longer place stands in the tree at the first step. -/
theorem treeAt?_cons (trees : List Tree) (position : Nat) {rest : Site} (longer : rest ≠ []) :
    treeAt? trees (position :: rest) =
      trees[position]?.bind fun tree => treeAt? tree.parts rest := by
  cases rest with
  | nil => contradiction
  | cons next rest => rfl

/-- Positions of a list of trees without its first tree. -/
theorem treeAt?_succ (tree : Tree) (trees : List Tree) (position : Nat) (rest : Site) :
    treeAt? (tree :: trees) ((position + 1) :: rest) = treeAt? trees (position :: rest) := by
  cases rest with
  | nil => rfl
  | cons next rest => rfl

/-- No longer place is a beginning of a shorter one. -/
theorem not_concat_prefix (base : Site) (position : Nat) : ¬ base ++ [position] <+: base := by
  intro start
  have lengths := start.length_le
  rw [List.length_append, List.length_singleton] at lengths
  omega

/-- Different positions below one place begin different places. -/
theorem eq_of_concat_prefix {base site : Site} {left right : Nat}
    (leftStart : base ++ [left] <+: site) (rightStart : base ++ [right] <+: site) :
    left = right := by
  have same := List.prefix_of_prefix_length_le leftStart rightStart (by simp)
  simpa using same.eq_of_length (by simp)

mutual

/-- Definitions in a tree stand at its place or below. -/
theorem prefix_of_mem_sitesOfTree (site : Site) (tree : Tree) :
    ∀ found ∈ sitesOfTree site tree, site <+: found := by
  intro found listed
  cases tree with
  | define kind name parameters row body =>
    rcases List.mem_cons.mp listed with rfl | inner
    · exact List.prefix_refl _
    · obtain ⟨position, _, start⟩ := prefix_of_mem_sitesOfTrees site 0 body found inner
      exact (List.prefix_append site [position]).trans start
  | expression parts =>
    obtain ⟨position, _, start⟩ := prefix_of_mem_sitesOfTrees site 0 parts found listed
    exact (List.prefix_append site [position]).trans start
  | group parts =>
    obtain ⟨position, _, start⟩ := prefix_of_mem_sitesOfTrees site 0 parts found listed
    exact (List.prefix_append site [position]).trans start
  | _ => contradiction

/-- Definitions in trees below a place stand at their positions or below. -/
theorem prefix_of_mem_sitesOfTrees (base : Site) (position : Nat) (trees : List Tree) :
    ∀ found ∈ sitesOfTrees base position trees,
      ∃ taken, position ≤ taken ∧ base ++ [taken] <+: found := by
  intro found listed
  cases trees with
  | nil => contradiction
  | cons tree trees =>
    rcases List.mem_append.mp listed with first | later
    · exact ⟨position, Nat.le_refl _, prefix_of_mem_sitesOfTree _ tree found first⟩
    · obtain ⟨taken, low, start⟩ := prefix_of_mem_sitesOfTrees base (position + 1) trees found later
      exact ⟨taken, by omega, start⟩

end

/-- A place comes before the places below it. -/
theorem lt_of_concat_prefix {base site : Site} {position : Nat}
    (start : base ++ [position] <+: site) : base < site := by
  obtain ⟨rest, rfl⟩ := start
  have below : base ++ [] < base ++ position :: rest :=
    List.append_left_lt (List.nil_lt_cons position rest)
  simpa using below

/-- Places below an earlier position come before places below a later one. -/
theorem lt_of_concat_prefix_of_lt {base left right : Site} {first second : Nat}
    (leftStart : base ++ [first] <+: left) (rightStart : base ++ [second] <+: right)
    (ordered : first < second) : left < right := by
  obtain ⟨leftRest, rfl⟩ := leftStart
  obtain ⟨rightRest, rfl⟩ := rightStart
  have apart : first :: leftRest < second :: rightRest :=
    List.cons_lt_cons_iff.mpr (Or.inl ordered)
  have below : base ++ first :: leftRest < base ++ second :: rightRest :=
    List.append_left_lt apart
  simpa using below

mutual

/-- Definitions in a tree are listed in the order of their places. -/
theorem sitesOfTree_pairwise (site : Site) (tree : Tree) :
    (sitesOfTree site tree).Pairwise (· < ·) := by
  cases tree with
  | define kind name parameters row body =>
    apply List.Pairwise.cons _ (sitesOfTrees_pairwise site 0 body)
    intro found listed
    obtain ⟨position, _, start⟩ := prefix_of_mem_sitesOfTrees site 0 body found listed
    exact lt_of_concat_prefix start
  | expression parts => exact sitesOfTrees_pairwise site 0 parts
  | group parts => exact sitesOfTrees_pairwise site 0 parts
  | _ => exact List.Pairwise.nil

/-- Definitions in trees are listed in the order of their places. -/
theorem sitesOfTrees_pairwise (base : Site) (position : Nat) (trees : List Tree) :
    (sitesOfTrees base position trees).Pairwise (· < ·) := by
  cases trees with
  | nil => exact List.Pairwise.nil
  | cons tree trees =>
    rw [sitesOfTrees, List.pairwise_append]
    refine ⟨sitesOfTree_pairwise _ tree, sitesOfTrees_pairwise base _ trees, ?_⟩
    intro left inFirst right inLater
    have leftStart := prefix_of_mem_sitesOfTree _ tree left inFirst
    obtain ⟨taken, low, rightStart⟩ :=
      prefix_of_mem_sitesOfTrees base (position + 1) trees right inLater
    exact lt_of_concat_prefix_of_lt leftStart rightStart low

end

/-- The places of all definitions ascend. -/
theorem definitionSites_pairwise (trees : List Tree) :
    (definitionSites trees).Pairwise (· < ·) :=
  sitesOfTrees_pairwise [] 0 trees

mutual

/-- The definitions at a tree and in its parts are listed. -/
theorem mem_sitesOfTree_of_definesAt (site : Site) (tree : Tree) (rest : Site)
    (defined : definesAt [tree] (0 :: rest) = true) : site ++ rest ∈ sitesOfTree site tree := by
  cases rest with
  | nil =>
    cases tree with
    | define kind name parameters row body =>
      rw [List.append_nil]
      exact List.mem_cons_self
    | _ => contradiction
  | cons next rest =>
    cases tree with
    | define kind name parameters row body =>
      have inner := mem_sitesOfTrees_of_definesAt site 0 body next rest defined
      rw [Nat.zero_add] at inner
      exact List.mem_cons_of_mem _ inner
    | expression parts =>
      have inner := mem_sitesOfTrees_of_definesAt site 0 parts next rest defined
      rwa [Nat.zero_add] at inner
    | group parts =>
      have inner := mem_sitesOfTrees_of_definesAt site 0 parts next rest defined
      rwa [Nat.zero_add] at inner
    | _ => cases rest <;> contradiction

/-- The definitions in trees are listed. -/
theorem mem_sitesOfTrees_of_definesAt (base : Site) (position : Nat) (trees : List Tree)
    (offset : Nat) (rest : Site) (defined : definesAt trees (offset :: rest) = true) :
    base ++ (position + offset) :: rest ∈ sitesOfTrees base position trees := by
  cases trees with
  | nil => cases rest <;> contradiction
  | cons tree trees =>
    cases offset with
    | zero =>
      have first := mem_sitesOfTree_of_definesAt (base ++ [position]) tree rest
        (by cases rest <;> exact defined)
      rw [List.append_assoc] at first
      exact List.mem_append_left _ first
    | succ offset =>
      have later := mem_sitesOfTrees_of_definesAt base (position + 1) trees offset rest
        (by rwa [definesAt, treeAt?_succ] at defined)
      rw [Nat.add_assoc, Nat.add_comm 1] at later
      exact List.mem_append_right _ later

end

/-- Every definition is listed. -/
theorem mem_definitionSites_of_definesAt {trees : List Tree} {site : Site}
    (defined : definesAt trees site = true) : site ∈ definitionSites trees := by
  cases site with
  | nil => contradiction
  | cons position rest =>
    have listed := mem_sitesOfTrees_of_definesAt [] 0 trees position rest defined
    rwa [Nat.zero_add] at listed

/-! ## Definitions around a place -/

/-- The definitions around a place are those at its proper beginnings. -/
theorem mem_enclosingSites {trees : List Tree} {outer site : Site} :
    outer ∈ enclosingSites trees site ↔
      outer <+: site ∧ outer ≠ site ∧ definesAt trees outer = true := by
  rw [enclosingSites, List.mem_filter, List.mem_map]
  constructor
  · rintro ⟨⟨length, shorter, rfl⟩, defined⟩
    refine ⟨List.take_prefix _ _, ?_, defined⟩
    intro whole
    have lengths := congrArg List.length whole
    rw [List.mem_range] at shorter
    rw [List.length_take] at lengths
    omega
  · rintro ⟨start, different, defined⟩
    refine ⟨⟨outer.length, ?_, (List.prefix_iff_eq_take.mp start).symm⟩, defined⟩
    rw [List.mem_range]
    exact Nat.lt_of_le_of_ne start.length_le fun same => different (start.eq_of_length same)

/-- The definitions around a place are those around its innermost definition, and that one. -/
theorem enclosingSites_eq_concat {trees : List Tree} {outer site : Site}
    (start : outer <+: site) (different : outer ≠ site) (defined : definesAt trees outer = true)
    (innermost : ∀ other, outer <+: other → other ≠ outer → other <+: site → other ≠ site →
      definesAt trees other = false) :
    enclosingSites trees site = enclosingSites trees outer ++ [outer] := by
  obtain ⟨rest, rfl⟩ := start
  cases rest with
  | nil => simp at different
  | cons position rest =>
    have before : ((List.range outer.length).map (outer ++ position :: rest).take) =
        (List.range outer.length).map outer.take := by
      apply List.map_congr_left
      intro length shorter
      rw [List.mem_range] at shorter
      exact List.take_append_of_le_length (Nat.le_of_lt shorter)
    have between : (((List.range rest.length).map Nat.succ).map
        ((outer ++ position :: rest).take ∘ (outer.length + ·))).filter (definesAt trees) = [] := by
      rw [List.filter_eq_nil_iff]
      intro other listed
      simp only [List.map_map, List.mem_map, List.mem_range, Function.comp_apply] at listed
      obtain ⟨extra, shorter, rfl⟩ := listed
      rw [Bool.not_eq_true]
      have lengths : ((outer ++ position :: rest).take (outer.length + extra.succ)).length =
          outer.length + extra + 1 := by
        rw [List.length_take, List.length_append, List.length_cons]
        omega
      refine innermost _ ?_ ?_ (List.take_prefix _ _) ?_
      · rw [List.take_length_add_append]
        exact List.prefix_append _ _
      · intro same
        rw [same] at lengths
        omega
      · intro same
        rw [same, List.length_append, List.length_cons] at lengths
        omega
    rw [enclosingSites, List.length_append, List.length_cons, List.range_add, List.map_append,
      List.filter_append, before, List.map_map, List.range_succ_eq_map, List.map_cons,
      List.filter_cons_of_pos, between, enclosingSites]
    · simp
    · simpa using defined

/-- A place that no definition encloses. -/
theorem enclosingSites_eq_nil {trees : List Tree} {site : Site}
    (outside : ∀ other, other <+: site → other ≠ site → definesAt trees other = false) :
    enclosingSites trees site = [] := by
  rw [List.eq_nil_iff_forall_not_mem]
  intro outer listed
  obtain ⟨start, different, defined⟩ := mem_enclosingSites.mp listed
  rw [outside outer start different] at defined
  contradiction

end SourceOutline.Grammar
