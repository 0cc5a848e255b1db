import SourceOutline.Declaration

/-!
# Parents in a declaration list

A declaration names its parent, and several declarations may bear that name. The nearest
one before it that stands one level up is meant, and if there is none, the nearest one.

Levels are machine words. To compare levels the search adds one to that of a candidate, and
it fails at a candidate whose level is the largest word.
-/

namespace SourceOutline.Graph

/-- A count that a drawing cannot raise, because it is the largest of its kind. -/
inductive Overflow where
  /-- The level of the declaration at a position. -/
  | level (position : Nat)
  /-- The number behind a node name. -/
  | number (base : String)
  deriving DecidableEq, Repr

/-- The largest level. -/
def deepestLevel : UInt64 := 18446744073709551615

/-- Indices below `index` of declarations that satisfy the test, nearest first. -/
def candidates (tree : List Declaration) (index : Nat) (test : Declaration → Bool) : List Nat :=
  ((tree.take index).zipIdx.filter fun (declaration, _) => test declaration).reverse.map (·.2)

/-- The search for the parent of the declaration at an index. From the nearest candidate back,
it ends at the first one that stands one level up or whose level cannot be raised. -/
def findParent (tree : List Declaration) (index : Nat) : Except Overflow (Option Nat) :=
  match tree[index]? with
  | none => .ok none
  | some node =>
    if node.isRoot then .ok none
    else
      let named := fun (other : Declaration) => other.name == node.parentName
      let ends := fun (other : Declaration) =>
        other.level == deepestLevel || other.level + 1 == node.level
      match (candidates tree index fun other => named other && ends other).head? with
      | none => .ok (candidates tree index named).head?
      | some position =>
        if tree[position]?.any (·.level == deepestLevel) then .error (.level position)
        else .ok (some position)

/-- The index of the parent of the declaration at an index, if the search finds one. -/
def parent? (tree : List Declaration) (index : Nat) : Option Nat :=
  (findParent tree index).toOption.join

/-- Makes the search for every declaration, up to one that fails. -/
def checkParents (tree : List Declaration) : Except Overflow Unit :=
  (List.range tree.length).forM fun index => (findParent tree index).map fun _ => ()

/-- The parent is what a search that succeeds gives. -/
theorem parent?_eq_of_findParent {tree : List Declaration} {index : Nat} {answer : Option Nat}
    (found : findParent tree index = .ok answer) : parent? tree index = answer := by
  rw [parent?, found]
  rfl

/-- Candidates stand before the index. -/
theorem lt_of_mem_candidates {tree : List Declaration} {index candidate : Nat}
    {test : Declaration → Bool} (listed : candidate ∈ candidates tree index test) :
    candidate < index := by
  simp only [candidates, List.mem_map, List.mem_reverse, List.mem_filter] at listed
  obtain ⟨⟨declaration, position⟩, ⟨placed, _⟩, rfl⟩ := listed
  have bound := List.snd_lt_of_mem_zipIdx placed
  rw [List.length_take] at bound
  omega

/-- A parent stands before its child. -/
theorem parent?_lt {tree : List Declaration} {index parent : Nat}
    (found : parent? tree index = some parent) : parent < index := by
  unfold parent? findParent at found
  split at found
  · contradiction
  · split at found
    · contradiction
    · dsimp only at found
      split at found
      · exact lt_of_mem_candidates (List.mem_of_mem_head? found)
      · next ended =>
        split at found
        · contradiction
        · obtain rfl := Option.some.inj found
          exact lt_of_mem_candidates (List.mem_of_mem_head? ended)

/-- Nodes numbered from zero, each with its parent. A parent stands before its children, so
the way up from any node ends at a root. -/
structure Forest where
  /-- The parent of each node, in order, and none for a root. -/
  parents : List (Option Nat)
  /-- A parent stands before its children. -/
  precedes : ∀ {index parent : Nat}, parents[index]? = some (some parent) → parent < index

namespace Forest

/-- The number of nodes. -/
def size (forest : Forest) : Nat := forest.parents.length

/-- The nodes whose parent is the one given, in order. -/
def childrenOf (forest : Forest) (parent : Option Nat) : List Nat :=
  (forest.parents.zipIdx.filter fun (own, _) => own == parent).map (·.2)

/-- The children of a node are the nodes that have it as their parent. -/
theorem mem_childrenOf {forest : Forest} {parent : Option Nat} {index : Nat} :
    index ∈ forest.childrenOf parent ↔ forest.parents[index]? = some parent := by
  simp only [childrenOf, List.mem_map, List.mem_filter, beq_iff_eq, Prod.exists,
    List.mem_zipIdx_iff_getElem?]
  constructor
  · rintro ⟨own, position, ⟨placed, rfl⟩, rfl⟩
    exact placed
  · intro placed
    exact ⟨parent, index, ⟨placed, rfl⟩, rfl⟩

/-- A child is a node with a larger index. -/
theorem lt_of_mem_childrenOf {forest : Forest} {index child : Nat}
    (listed : child ∈ forest.childrenOf (some index)) : index < child ∧ child < forest.size := by
  have placed := mem_childrenOf.mp listed
  exact ⟨forest.precedes placed, (List.getElem?_eq_some_iff.mp placed).1⟩

end Forest

/-- The forest of a declaration list. -/
def forestOf (tree : List Declaration) : Forest where
  parents := (List.range tree.length).map (parent? tree)
  precedes {index parent} placed := by
    simp only [List.getElem?_map, Option.map_eq_some_iff] at placed
    obtain ⟨position, inside, found⟩ := placed
    obtain ⟨_, rfl⟩ := List.getElem?_eq_some_iff.mp inside
    rw [List.getElem_range] at found
    exact parent?_lt found

end SourceOutline.Graph
