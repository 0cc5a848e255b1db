import Mathlib.Logic.ExistsUnique
import SourceOutline.Graph.Parent

/-!
# The rule of parents

A declaration that names a parent belongs to the nearest declaration in front of it that bears this
name one level up. If there is none, it belongs to the nearest that bears the name. The rule says
this of levels as numbers (`RuledParent`).

The search adds one to the levels that it meets, and levels are machine words. It gives the answer
of the rule whenever all its sums are words, and it fails at the first level that is the largest
word, whatever the answer of the rule is there. A list can be drawn exactly if none of its searches
fails (`LevelsFit`).
-/

namespace SourceOutline.Graph

/-! ## Nearest declarations -/

/-- The greatest index below another whose declaration satisfies a condition. -/
structure IsNearest (tree : List Declaration) (index : Nat) (condition : Declaration → Prop)
    (nearest : Nat) : Prop where
  /-- It is below the other index. -/
  before : nearest < index
  /-- Its declaration satisfies the condition. -/
  satisfied : ∃ other, tree[nearest]? = some other ∧ condition other
  /-- No declaration between the two does. -/
  greatest : ∀ position other, nearest < position → position < index →
    tree[position]? = some other → ¬ condition other

/-- No declaration in front of an index satisfies a condition. -/
def NoneBefore (tree : List Declaration) (index : Nat) (condition : Declaration → Prop) : Prop :=
  ∀ position other, position < index → tree[position]? = some other → ¬ condition other

section Nearest

variable {tree : List Declaration} {index : Nat}

/-- There is one nearest declaration at most. -/
theorem IsNearest.unique {condition : Declaration → Prop} {left right : Nat}
    (first : IsNearest tree index condition left) (second : IsNearest tree index condition right) :
    left = right := by
  obtain ⟨leftOther, leftPlaced, leftHolds⟩ := first.satisfied
  obtain ⟨rightOther, rightPlaced, rightHolds⟩ := second.satisfied
  have notLess : ¬ left < right := fun less =>
    first.greatest right rightOther less second.before rightPlaced rightHolds
  have notGreater : ¬ right < left := fun less =>
    second.greatest left leftOther less first.before leftPlaced leftHolds
  omega

variable {test : Declaration → Bool}

/-- Candidates are the declarations in front that pass the test. -/
theorem mem_candidates {position : Nat} :
    position ∈ candidates tree index test ↔
      position < index ∧ ∃ other, tree[position]? = some other ∧ test other = true := by
  simp only [candidates, List.mem_map, List.mem_reverse, List.mem_filter, Prod.exists,
    List.mem_zipIdx_iff_getElem?, List.getElem?_take]
  constructor
  · rintro ⟨other, place, ⟨placed, passes⟩, rfl⟩
    split at placed
    · next before => exact ⟨before, other, placed, passes⟩
    · contradiction
  · rintro ⟨before, other, placed, passes⟩
    exact ⟨other, position, ⟨by rw [if_pos before, placed], passes⟩, rfl⟩

/-- Candidates are listed from the nearest back. -/
theorem candidates_pairwise (tree : List Declaration) (index : Nat) (test : Declaration → Bool) :
    (candidates tree index test).Pairwise (· > ·) := by
  have ascending : (((tree.take index).zipIdx.filter fun (entry : Declaration × Nat) =>
      test entry.1).map Prod.snd).Pairwise (· < ·) := by
    apply List.Pairwise.sublist (List.filter_sublist.map Prod.snd)
    rw [List.zipIdx_map_snd]
    exact List.pairwise_lt_range'
  have descending := List.pairwise_reverse.mpr ascending
  rw [← List.map_reverse] at descending
  exact descending

/-- The first candidate is the nearest declaration that passes the test. -/
theorem head?_candidates_eq_some_iff {nearest : Nat} :
    (candidates tree index test).head? = some nearest ↔
      IsNearest tree index (fun other => test other = true) nearest := by
  have isNearest {first : Nat} (head : (candidates tree index test).head? = some first) :
      IsNearest tree index (fun other => test other = true) first := by
    obtain ⟨before, satisfied⟩ := mem_candidates.mp (List.mem_of_mem_head? head)
    refine ⟨before, satisfied, ?_⟩
    intro position other later inside placed passes
    obtain ⟨rest, listed⟩ := List.head?_eq_some_iff.mp head
    have member := mem_candidates.mpr ⟨inside, other, placed, passes⟩
    have descending := candidates_pairwise tree index test
    rw [listed] at member descending
    rcases List.mem_cons.mp member with rfl | farther
    · omega
    · have below := (List.pairwise_cons.mp descending).1 position farther
      omega
  constructor
  · exact isNearest
  · intro found
    cases head : (candidates tree index test).head? with
    | none =>
      have member := mem_candidates.mpr ⟨found.before, found.satisfied⟩
      rw [List.head?_eq_none_iff.mp head] at member
      contradiction
    | some first => rw [(isNearest head).unique found]

/-- There is no candidate where no declaration in front passes the test. -/
theorem head?_candidates_eq_none_iff :
    (candidates tree index test).head? = none ↔
      NoneBefore tree index (fun other => test other = true) := by
  rw [List.head?_eq_none_iff, List.eq_nil_iff_forall_not_mem]
  constructor
  · intro empty position other before placed passes
    exact empty position (mem_candidates.mpr ⟨before, other, placed, passes⟩)
  · intro none position member
    obtain ⟨before, other, placed, passes⟩ := mem_candidates.mp member
    exact none position other before placed passes

end Nearest

/-! ## The rule -/

/-- The level of a declaration is one less than that of another. -/
abbrev IsOneUp (node other : Declaration) : Prop := other.level.toNat + 1 = node.level.toNat

/-- The parent of a declaration by the rule: the nearest that bears the parent's name one level up,
or else the nearest that bears the name, or else none. -/
inductive RuledParent (tree : List Declaration) (index : Nat) (node : Declaration) :
    Option Nat → Prop where
  | oneUp {parent : Nat}
    (nearest : IsNearest tree index
      (fun other => other.name = node.parentName ∧ IsOneUp node other) parent) :
    RuledParent tree index node (some parent)
  | named {parent : Nat}
    (absent : NoneBefore tree index fun other => other.name = node.parentName ∧ IsOneUp node other)
    (nearest : IsNearest tree index (fun other => other.name = node.parentName) parent) :
    RuledParent tree index node (some parent)
  | missing (absent : NoneBefore tree index fun other => other.name = node.parentName) :
    RuledParent tree index node none

/-- The level of a declaration is the largest word, so that the level and one are none. -/
abbrev IsDeepest (declaration : Declaration) : Prop :=
  declaration.level.toNat + 1 = 18446744073709551616

/-- The search for a parent adds one to the level of a declaration: it bears the parent's name, and
the search has not ended at a nearer one, be it with an answer or with a failure. -/
def IsRaised (tree : List Declaration) (index : Nat) (node : Declaration) (position : Nat)
    (other : Declaration) : Prop :=
  position < index ∧ tree[position]? = some other ∧ other.name = node.parentName ∧
    ∀ nearer later, position < nearer → nearer < index → tree[nearer]? = some later →
      later.name = node.parentName → ¬ IsOneUp node later ∧ ¬ IsDeepest later

/-- No search for a parent in the list adds one to the largest level. -/
def LevelsFit (tree : List Declaration) : Prop :=
  ∀ (index : Nat) (node : Declaration), tree[index]? = some node → node.parentName ≠ "" →
    ∀ position other, IsRaised tree index node position other → ¬ IsDeepest other

section Rule

variable {tree : List Declaration} {index : Nat} {node : Declaration}

/-- The rule is two searches in turn. -/
theorem ruledParent_iff (tree : List Declaration) (index : Nat) (node : Declaration)
    (answer : Option Nat) :
    RuledParent tree index node answer ↔
      (candidates tree index fun other =>
          other.name == node.parentName && decide (IsOneUp node other)).head?.or
        (candidates tree index fun other => other.name == node.parentName).head? = answer := by
  have both : (fun other : Declaration =>
      (other.name == node.parentName && decide (IsOneUp node other)) = true) =
      fun other => other.name = node.parentName ∧ IsOneUp node other := by simp
  have name : (fun other : Declaration => (other.name == node.parentName) = true) =
      fun other => other.name = node.parentName := by simp
  constructor
  · intro found
    cases found with
    | oneUp nearest =>
      rw [head?_candidates_eq_some_iff.mpr (both ▸ nearest), Option.some_or]
    | named absent nearest =>
      rw [head?_candidates_eq_none_iff.mpr (both ▸ absent),
        head?_candidates_eq_some_iff.mpr (name ▸ nearest), Option.none_or]
    | missing absent =>
      have noneUp : NoneBefore tree index
          fun other => other.name = node.parentName ∧ IsOneUp node other :=
        fun position other before placed holds => absent position other before placed holds.1
      rw [head?_candidates_eq_none_iff.mpr (both ▸ noneUp),
        head?_candidates_eq_none_iff.mpr (name ▸ absent), Option.none_or]
  · rintro rfl
    cases first : (candidates tree index fun other =>
        other.name == node.parentName && decide (IsOneUp node other)).head? with
    | some parent => exact .oneUp (both ▸ head?_candidates_eq_some_iff.mp first)
    | none =>
      have noneUp := both ▸ head?_candidates_eq_none_iff.mp first
      cases second : (candidates tree index fun other => other.name == node.parentName).head? with
      | some parent => exact .named noneUp (name ▸ head?_candidates_eq_some_iff.mp second)
      | none => exact .missing (name ▸ head?_candidates_eq_none_iff.mp second)

/-- The rule gives one answer. -/
theorem existsUnique_ruledParent (tree : List Declaration) (index : Nat) (node : Declaration) :
    ∃! answer, RuledParent tree index node answer :=
  ⟨_, (ruledParent_iff tree index node _).mpr rfl,
    fun answer found => ((ruledParent_iff tree index node answer).mp found).symm⟩

/-! ## The search -/

/-- A level is the largest word as a word if it is as a number. -/
theorem level_eq_deepestLevel_iff (declaration : Declaration) :
    declaration.level = deepestLevel ↔ IsDeepest declaration := by
  rw [← UInt64.toNat_inj, deepestLevel, IsDeepest]
  change declaration.level.toNat = 18446744073709551615 ↔ _
  omega

/-- The search ends at a level that is one up or the largest. -/
theorem ends_iff (node other : Declaration) :
    (other.level == deepestLevel || other.level + 1 == node.level) = true ↔
      IsOneUp node other ∨ IsDeepest other := by
  have sum : (other.level + 1).toNat = (other.level.toNat + 1) % 18446744073709551616 :=
    UInt64.toNat_add other.level 1
  have bound : other.level.toNat < 18446744073709551616 := other.level.toNat_lt
  have nodeBound : node.level.toNat < 18446744073709551616 := node.level.toNat_lt
  rw [Bool.or_eq_true, beq_iff_eq, beq_iff_eq, level_eq_deepestLevel_iff, ← UInt64.toNat_inj, sum,
    IsOneUp, IsDeepest]
  omega

/-- Where no search ends, none of the levels that it raises is the largest. -/
theorem not_isDeepest_of_noneBefore
    (absent : NoneBefore tree index fun other =>
      other.name = node.parentName ∧ (IsOneUp node other ∨ IsDeepest other))
    {position : Nat} {other : Declaration} (raised : IsRaised tree index node position other) :
    ¬ IsDeepest other := by
  obtain ⟨before, placed, name, _⟩ := raised
  exact fun deepest => absent position other before placed ⟨name, .inr deepest⟩

/-- The search ends at the only level that it raises and that ends it. -/
theorem IsRaised.eq_of_isNearest {position nearest : Nat} {other : Declaration}
    (raised : IsRaised tree index node position other) (deepest : IsDeepest other)
    (found : IsNearest tree index (fun other =>
      other.name = node.parentName ∧ (IsOneUp node other ∨ IsDeepest other)) nearest) :
    position = nearest := by
  obtain ⟨before, placed, name, nothing⟩ := raised
  obtain ⟨last, lastPlaced, lastName, ends⟩ := found.satisfied
  have notFarther : ¬ position < nearest := by
    intro farther
    obtain ⟨noneUp, notDeepest⟩ :=
      nothing nearest last farther found.before lastPlaced lastName
    exact ends.elim noneUp notDeepest
  have notNearer : ¬ nearest < position := fun nearer =>
    found.greatest position other nearer before placed ⟨name, .inr deepest⟩
  omega

/-- The search gives the answer of the rule, and then none of the levels that it raises is the
largest. Or it fails at one that is. -/
theorem findParent_cases (placed : tree[index]? = some node) (below : node.parentName ≠ "") :
    (∃ answer, findParent tree index = .ok answer ∧ RuledParent tree index node answer ∧
      ∀ position other, IsRaised tree index node position other → ¬ IsDeepest other) ∨
    ∃ position other, findParent tree index = .error (.level position) ∧
      IsRaised tree index node position other ∧ IsDeepest other ∧
      ∀ place later, IsRaised tree index node place later → IsDeepest later → place = position := by
  have notRoot : node.isRoot = false := by simpa [Declaration.isRoot] using below
  have stops : (fun other : Declaration => (other.name == node.parentName &&
      (other.level == deepestLevel || other.level + 1 == node.level)) = true) =
      fun other => other.name = node.parentName ∧ (IsOneUp node other ∨ IsDeepest other) := by
    funext other
    rw [Bool.and_eq_true, ends_iff, beq_iff_eq]
  have name : (fun other : Declaration => (other.name == node.parentName) = true) =
      fun other => other.name = node.parentName := by simp
  cases ended : (candidates tree index fun other => other.name == node.parentName &&
      (other.level == deepestLevel || other.level + 1 == node.level)).head? with
  | none =>
    left
    have absent := stops ▸ head?_candidates_eq_none_iff.mp ended
    have noneUp : NoneBefore tree index
        fun other => other.name = node.parentName ∧ IsOneUp node other :=
      fun position other before placed holds =>
        absent position other before placed ⟨holds.1, .inl holds.2⟩
    have found : findParent tree index =
        .ok (candidates tree index fun other => other.name == node.parentName).head? := by
      simp [findParent, placed, notRoot, ended]
    refine ⟨_, found, ?_, fun _ _ => not_isDeepest_of_noneBefore absent⟩
    cases first : (candidates tree index fun other => other.name == node.parentName).head? with
    | some parent => exact .named noneUp (name ▸ head?_candidates_eq_some_iff.mp first)
    | none => exact .missing (name ▸ head?_candidates_eq_none_iff.mp first)
  | some position =>
    have nearest := stops ▸ head?_candidates_eq_some_iff.mp ended
    obtain ⟨other, otherPlaced, otherName, ends⟩ := nearest.satisfied
    have found : findParent tree index =
        if IsDeepest other then .error (.level position) else .ok (some position) := by
      simp [findParent, placed, notRoot, ended, otherPlaced, ← level_eq_deepestLevel_iff]
    by_cases deepest : IsDeepest other
    · right
      rw [if_pos deepest] at found
      refine ⟨position, other, found, ⟨nearest.before, otherPlaced, otherName, ?_⟩, deepest,
        fun _ _ raised top => raised.eq_of_isNearest top nearest⟩
      intro nearer later farther before laterPlaced laterName
      have goesOn := nearest.greatest nearer later farther before laterPlaced
      exact ⟨fun oneUp => goesOn ⟨laterName, .inl oneUp⟩, fun top => goesOn ⟨laterName, .inr top⟩⟩
    · left
      rw [if_neg deepest] at found
      have oneUp := ends.resolve_right deepest
      refine ⟨_, found, .oneUp ⟨nearest.before, ⟨other, otherPlaced, otherName, oneUp⟩, ?_⟩, ?_⟩
      · intro nearer later farther before laterPlaced holds
        exact nearest.greatest nearer later farther before laterPlaced ⟨holds.1, .inl holds.2⟩
      · intro place later raised top
        obtain rfl := raised.eq_of_isNearest top nearest
        obtain rfl := Option.some.inj (raised.2.1.symm.trans otherPlaced)
        exact deepest top

/-- For every list, with levels of any size, and every declaration in it that names a parent: the
rule gives one answer. The search gives an answer exactly if no level that it adds one to is the
largest, and then the answer is that of the rule. Otherwise it fails at that level. -/
theorem findParent_keeps_rule_unless_overflow (tree : List Declaration) (index : Nat)
    (node : Declaration) (placed : tree[index]? = some node) (below : node.parentName ≠ "") :
    (∃! answer, RuledParent tree index node answer) ∧
    (∀ answer, findParent tree index = .ok answer ↔ RuledParent tree index node answer ∧
      ∀ position other, IsRaised tree index node position other →
        other.level.toNat + 1 < 18446744073709551616) ∧
    ∀ overflow, findParent tree index = .error overflow ↔
      ∃ position other, overflow = .level position ∧ IsRaised tree index node position other ∧
        other.level.toNat + 1 = 18446744073709551616 := by
  have word (other : Declaration) : other.level.toNat + 1 < 18446744073709551616 ↔
      ¬ IsDeepest other := by
    have bound : other.level.toNat < 18446744073709551616 := other.level.toNat_lt
    rw [IsDeepest]
    omega
  have unique := existsUnique_ruledParent tree index node
  refine ⟨unique, ?_⟩
  simp only [word]
  rcases findParent_cases placed below with ⟨found, answered, ruled, fits⟩ |
    ⟨position, other, failed, raised, deepest, only⟩
  · rw [answered]
    constructor
    · intro answer
      constructor
      · rintro ⟨⟩
        exact ⟨ruled, fits⟩
      · rintro ⟨other, _⟩
        rw [unique.unique other ruled]
    · intro overflow
      constructor
      · exact nofun
      · rintro ⟨position, other, _, raised, deepest⟩
        exact absurd deepest (fits position other raised)
  · rw [failed]
    constructor
    · intro answer
      constructor
      · exact nofun
      · rintro ⟨_, fits⟩
        exact absurd deepest (fits position other raised)
    · intro overflow
      constructor
      · rintro ⟨⟩
        exact ⟨position, other, rfl, raised, deepest⟩
      · rintro ⟨place, later, rfl, laterRaised, top⟩
        rw [only place later laterRaised top]

end Rule

/-- Two declarations of one name below the largest level, and one of the largest level that names
them its parent. The farther of the two is one level up. -/
def deepTree : List Declaration :=
  [⟨.cls, "A", "", 18446744073709551614, []⟩, ⟨.cls, "A", "", 3, []⟩,
    ⟨.function, "f", "A", 18446744073709551615, []⟩]

/-- The parent of the deepest declaration is one level up, and no nearer. -/
theorem findParent_deepTree :
    findParent deepTree 2 = .ok (some 0) ∧
    RuledParent deepTree 2 ⟨.function, "f", "A", 18446744073709551615, []⟩ (some 0) := by
  have found : findParent deepTree 2 = .ok (some 0) := rfl
  obtain ⟨_, answers, _⟩ := findParent_keeps_rule_unless_overflow deepTree 2
    ⟨.function, "f", "A", 18446744073709551615, []⟩ rfl (by decide)
  exact ⟨found, ((answers _).mp found).1⟩

/-- A declaration of level zero whose parent's name is borne by one of the largest level and, nearer
to it, by one of level five. -/
def overflowingTree : List Declaration :=
  [⟨.cls, "A", "", 18446744073709551615, []⟩, ⟨.cls, "A", "", 5, []⟩,
    ⟨.function, "f", "A", 0, []⟩]

/-- The search goes on to the largest level and fails there. The rule gives the nearer one. -/
theorem findParent_overflowingTree :
    findParent overflowingTree 2 = .error (.level 0) ∧
    RuledParent overflowingTree 2 ⟨.function, "f", "A", 0, []⟩ (some 1) ∧
    ∃ other, IsRaised overflowingTree 2 ⟨.function, "f", "A", 0, []⟩ 0 other ∧
      (other.level + 1).toNat ≠ other.level.toNat + 1 := by
  have nearest : IsNearest overflowingTree 2 (fun other => other.name = "A") 1 := by
    refine ⟨by decide, ⟨_, rfl, rfl⟩, ?_⟩
    intro position other later before
    omega
  refine ⟨rfl, .named ?_ nearest, ⟨_, ⟨by decide, rfl, rfl, ?_⟩, by decide⟩⟩
  · intro position other _ _ holds
    exact absurd holds.2 (Nat.succ_ne_zero _)
  · intro nearer later above before placed name
    obtain rfl : nearer = 1 := by omega
    cases placed
    decide

/-! ## Lists that can be drawn -/

/-- A check of every item succeeds exactly if it succeeds for each. -/
theorem forM_eq_ok_iff {α ε : Type} {items : List α} {check : α → Except ε Unit} :
    items.forM check = .ok () ↔ ∀ item ∈ items, check item = .ok () := by
  induction items with
  | nil => simp [List.forM, pure, Except.pure]
  | cons item items ih =>
    rw [List.forall_mem_cons, ← ih, List.forM]
    cases check item <;> simp [bind, Except.bind]

/-- A search in a list whose levels fit gives an answer, which is the parent. -/
theorem LevelsFit.findParent_eq {tree : List Declaration} (fits : LevelsFit tree) (index : Nat) :
    findParent tree index = .ok (parent? tree index) := by
  have answers : ∃ answer, findParent tree index = .ok answer := by
    cases placed : tree[index]? with
    | none => exact ⟨none, by rw [findParent, placed]⟩
    | some node =>
      by_cases root : node.parentName = ""
      · exact ⟨none, by simp [findParent, placed, Declaration.isRoot, root]⟩
      · rcases findParent_cases placed root with ⟨answer, found, _⟩ |
          ⟨position, other, _, raised, deepest, _⟩
        · exact ⟨answer, found⟩
        · exact absurd deepest (fits index node placed root position other raised)
  obtain ⟨answer, found⟩ := answers
  rw [found, parent?_eq_of_findParent found]

/-- All searches in a list succeed exactly if no search adds one to the largest level. -/
theorem checkParents_eq_ok_iff (tree : List Declaration) :
    checkParents tree = .ok () ↔ LevelsFit tree := by
  rw [checkParents, forM_eq_ok_iff]
  constructor
  · intro checked index node placed below position other raised deepest
    have inside := (List.getElem?_eq_some_iff.mp placed).1
    have succeeded := checked index (List.mem_range.mpr inside)
    rcases findParent_cases placed below with ⟨_, _, _, fits⟩ | ⟨_, _, failed, _⟩
    · exact fits position other raised deepest
    · rw [failed] at succeeded
      exact nomatch succeeded
  · intro fits index _
    rw [fits.findParent_eq index]
    rfl

end SourceOutline.Graph
