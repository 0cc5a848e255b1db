import Mathlib.Data.List.Nodup
import SourceOutline.Graph.Parent

/-!
# Forests in depth-first order

The parent relation of a forest read in both directions. Upwards, every node has a list of
ancestors that ends at a root. Downwards, every node has a subtree: the node itself and then
the subtrees of its children. A node stands in the subtree of exactly those nodes that are on
its way up, and two nodes with one parent are never both on the way up from a third. So the
subtrees of the roots, one after the other, list every node once.
-/

namespace SourceOutline.Graph.Forest

/-- The parent of a node, if it has one. -/
def parent? (forest : Forest) (index : Nat) : Option Nat := forest.parents[index]?.join

/-- The parent of a node, the parent of that, and so on up to a root. -/
def ancestors (forest : Forest) (index : Nat) : List Nat :=
  match _found : forest.parents[index]? with
  | some (some parent) => parent :: forest.ancestors parent
  | _ => []
termination_by index
decreasing_by exact forest.precedes _found

/-- A node and all below it, depth first, children in order. -/
def subtree (forest : Forest) (index : Nat) : List Nat :=
  index :: (forest.childrenOf (some index)).attach.flatMap fun child => forest.subtree child.1
termination_by forest.size - index
decreasing_by
  have bounds := lt_of_mem_childrenOf child.2
  omega

/-- All nodes, depth first, roots in order. -/
def listing (forest : Forest) : List Nat := (forest.childrenOf none).flatMap forest.subtree

/-- The node is the last child of its parent, or the last root. -/
def isLast (forest : Forest) (index : Nat) : Bool :=
  (forest.childrenOf (forest.parent? index)).getLast? == some index

variable {forest : Forest} {index parent : Nat}

/-- The subtree of a node without the bookkeeping of its recursion. -/
theorem subtree_eq (forest : Forest) (index : Nat) :
    forest.subtree index =
      index :: (forest.childrenOf (some index)).flatMap forest.subtree := by
  rw [subtree, List.flatMap_subtype (fun _ _ => rfl), List.unattach_attach]

/-- The parent of a child. -/
theorem parent?_of_mem_childrenOf {owner : Option Nat}
    (listed : index ∈ forest.childrenOf owner) : forest.parent? index = owner := by
  rw [parent?, mem_childrenOf.mp listed, Option.join_some]

/-- A child is a node. -/
theorem lt_size_of_mem_childrenOf {owner : Option Nat}
    (listed : index ∈ forest.childrenOf owner) : index < forest.size :=
  (List.getElem?_eq_some_iff.mp (mem_childrenOf.mp listed)).1

/-! ## The way up -/

/-- The way up from a child starts with its parent. -/
theorem ancestors_of_child (placed : forest.parents[index]? = some (some parent)) :
    forest.ancestors index = parent :: forest.ancestors parent := by
  rw [ancestors]
  split
  · next found => rw [placed] at found; simp_all
  · next absent => exact absurd placed (absent parent)

/-- A node without a parent has no ancestors. -/
theorem ancestors_of_root (root : forest.parent? index = none) : forest.ancestors index = [] := by
  rw [ancestors]
  split
  · next found => simp [parent?, found] at root
  · rfl

/-- A node either has no ancestors or the way up from its parent behind its parent. -/
theorem ancestors_eq (forest : Forest) (index : Nat) :
    forest.ancestors index =
      (forest.parent? index).elim [] fun parent => parent :: forest.ancestors parent := by
  cases found : forest.parent? index with
  | none => exact ancestors_of_root found
  | some parent =>
    obtain placed := Option.join_eq_some_iff.mp found
    exact ancestors_of_child placed

/-- Ancestors stand before the node. -/
theorem lt_of_mem_ancestors {ancestor : Nat} (above : ancestor ∈ forest.ancestors index) :
    ancestor < index := by
  induction index using Nat.strongRecOn with
  | ind index ih =>
    cases found : forest.parent? index with
    | none => simp [ancestors_of_root found] at above
    | some parent =>
      have placed := Option.join_eq_some_iff.mp found
      have before := forest.precedes placed
      rw [ancestors_of_child placed] at above
      rcases List.mem_cons.mp above with rfl | higher
      · exact before
      · exact Nat.lt_trans (ih parent before higher) before

/-- The way up from a node on the way up is the rest of that way. -/
theorem way_suffix {ancestor : Nat} (above : ancestor ∈ index :: forest.ancestors index) :
    (ancestor :: forest.ancestors ancestor) <:+ (index :: forest.ancestors index) := by
  induction index using Nat.strongRecOn with
  | ind index ih =>
    rcases List.mem_cons.mp above with rfl | above
    · exact List.suffix_refl _
    · cases found : forest.parent? index with
      | none => simp [ancestors_of_root found] at above
      | some parent =>
        have placed := Option.join_eq_some_iff.mp found
        rw [ancestors_of_child placed] at above ⊢
        exact (ih parent (forest.precedes placed) above).trans (List.suffix_cons _ _)

/-- Two nodes with one parent on the way up from a third are the same. Both ways go on in the
same manner, so they are equally long ends of one way. -/
theorem eq_of_siblings_on_way {left right : Nat}
    (siblings : forest.parent? left = forest.parent? right)
    (leftAbove : left ∈ index :: forest.ancestors index)
    (rightAbove : right ∈ index :: forest.ancestors index) : left = right := by
  have level : (left :: forest.ancestors left).length =
      (right :: forest.ancestors right).length := by
    rw [ancestors_eq forest left, ancestors_eq forest right, siblings, List.length_cons,
      List.length_cons]
  have same : left :: forest.ancestors left = right :: forest.ancestors right := by
    rcases List.suffix_or_suffix_of_suffix (way_suffix leftAbove) (way_suffix rightAbove) with
      shorter | shorter
    · exact shorter.eq_of_length level
    · exact (shorter.eq_of_length level.symm).symm
  exact (List.cons.inj same).1

/-- The way up from any node passes a root. -/
theorem exists_root_on_way (inside : index < forest.size) :
    ∃ root ∈ index :: forest.ancestors index, root ∈ forest.childrenOf none := by
  induction index using Nat.strongRecOn with
  | ind index ih =>
    obtain ⟨owner, entry⟩ : ∃ owner, forest.parents[index]? = some owner :=
      ⟨_, List.getElem?_eq_getElem inside⟩
    cases owner with
    | none =>
      exact ⟨index, List.mem_cons_self, mem_childrenOf.mpr entry⟩
    | some parent =>
      have before := forest.precedes entry
      obtain ⟨root, above, isRoot⟩ := ih parent before (Nat.lt_trans before inside)
      refine ⟨root, List.mem_cons_of_mem index ?_, isRoot⟩
      rw [ancestors_of_child entry]
      exact above

/-! ## The way down -/

/-- A node stands in its own subtree. -/
theorem self_mem_subtree (forest : Forest) (index : Nat) : index ∈ forest.subtree index := by
  rw [subtree_eq]
  exact List.mem_cons_self

/-- The children of a node stand in every subtree that the node stands in. -/
theorem child_mem_subtree {top child : Nat} (below : parent ∈ forest.subtree top)
    (placed : child ∈ forest.childrenOf (some parent)) : child ∈ forest.subtree top := by
  induction top using subtree.induct forest with
  | case1 top ih =>
    rw [subtree_eq] at below ⊢
    apply List.mem_cons_of_mem
    rw [List.mem_flatMap]
    rcases List.mem_cons.mp below with rfl | below
    · exact ⟨child, placed, self_mem_subtree forest child⟩
    · obtain ⟨next, listed, deeper⟩ := List.mem_flatMap.mp below
      exact ⟨next, listed, ih ⟨next, listed⟩ deeper⟩

/-- A node stands in the subtrees of the nodes on its way up, and in no other. -/
theorem mem_subtree_iff {top : Nat} :
    index ∈ forest.subtree top ↔ top ∈ index :: forest.ancestors index := by
  constructor
  · intro below
    induction top using subtree.induct forest with
    | case1 top ih =>
      rw [subtree_eq] at below
      rcases List.mem_cons.mp below with rfl | below
      · exact List.mem_cons_self
      · obtain ⟨next, listed, deeper⟩ := List.mem_flatMap.mp below
        have rest := way_suffix (ih ⟨next, listed⟩ deeper)
        rw [ancestors_of_child (mem_childrenOf.mp listed)] at rest
        exact rest.subset (by simp)
  · intro above
    induction index using Nat.strongRecOn with
    | ind index ih =>
      rcases List.mem_cons.mp above with rfl | above
      · exact self_mem_subtree forest top
      · cases found : forest.parent? index with
        | none => simp [ancestors_of_root found] at above
        | some parent =>
          have placed := Option.join_eq_some_iff.mp found
          rw [ancestors_of_child placed] at above
          exact child_mem_subtree (ih parent (forest.precedes placed) above)
            (mem_childrenOf.mpr placed)

/-- Children stand in ascending order. -/
theorem childrenOf_pairwise_lt (forest : Forest) (owner : Option Nat) :
    (forest.childrenOf owner).Pairwise (· < ·) := by
  have numbers : (forest.parents.zipIdx.map Prod.snd).Pairwise (· < ·) := by
    rw [List.zipIdx_map_snd]
    exact List.pairwise_lt_range'
  exact numbers.sublist (List.filter_sublist.map Prod.snd)

/-- No child is listed twice. -/
theorem nodup_childrenOf (forest : Forest) (owner : Option Nat) :
    (forest.childrenOf owner).Nodup :=
  (childrenOf_pairwise_lt forest owner).imp Nat.ne_of_lt

/-- The subtrees of two nodes with one parent have nothing in common. -/
theorem disjoint_subtree_of_siblings {left right : Nat} {owner : Option Nat}
    (leftChild : left ∈ forest.childrenOf owner) (rightChild : right ∈ forest.childrenOf owner)
    (different : left ≠ right) : (forest.subtree left).Disjoint (forest.subtree right) := by
  intro index inLeft inRight
  have siblings : forest.parent? left = forest.parent? right := by
    rw [parent?_of_mem_childrenOf leftChild, parent?_of_mem_childrenOf rightChild]
  exact different (eq_of_siblings_on_way siblings (mem_subtree_iff.mp inLeft)
    (mem_subtree_iff.mp inRight))

/-- The subtrees below one parent, or below none, list no node twice when each of them lists
no node twice. -/
theorem nodup_flatMap_subtree {owner : Option Nat}
    (each : ∀ child ∈ forest.childrenOf owner, (forest.subtree child).Nodup) :
    ((forest.childrenOf owner).flatMap forest.subtree).Nodup := by
  rw [List.nodup_flatMap]
  refine ⟨each, (nodup_childrenOf forest owner).pairwise_of_forall_ne ?_⟩
  intro left leftChild right rightChild different
  exact disjoint_subtree_of_siblings leftChild rightChild different

/-- A node does not stand in the subtree of its child. -/
theorem not_mem_subtree_child {child : Nat} (listed : child ∈ forest.childrenOf (some index)) :
    index ∉ forest.subtree child := by
  intro below
  have after := (lt_of_mem_childrenOf listed).1
  rcases List.mem_cons.mp (mem_subtree_iff.mp below) with rfl | above
  · exact Nat.lt_irrefl _ after
  · exact Nat.lt_asymm after (lt_of_mem_ancestors above)

/-- A subtree lists no node twice. -/
theorem nodup_subtree (forest : Forest) (index : Nat) : (forest.subtree index).Nodup := by
  induction index using subtree.induct forest with
  | case1 index ih =>
    rw [subtree_eq, List.nodup_cons]
    constructor
    · intro below
      obtain ⟨child, listed, deeper⟩ := List.mem_flatMap.mp below
      exact not_mem_subtree_child listed deeper
    · exact nodup_flatMap_subtree fun child listed => ih ⟨child, listed⟩

/-- All nodes are listed. -/
theorem mem_listing_iff : index ∈ forest.listing ↔ index < forest.size := by
  rw [listing, List.mem_flatMap]
  constructor
  · rintro ⟨root, isRoot, below⟩
    rcases List.mem_cons.mp (mem_subtree_iff.mp below) with rfl | above
    · exact lt_size_of_mem_childrenOf isRoot
    · cases found : forest.parent? index with
      | none => simp [ancestors_of_root found] at above
      | some parent =>
        exact (List.getElem?_eq_some_iff.mp (Option.join_eq_some_iff.mp found)).1
  · intro inside
    obtain ⟨root, above, isRoot⟩ := exists_root_on_way inside
    exact ⟨root, isRoot, mem_subtree_iff.mpr above⟩

/-- No node is listed twice. -/
theorem nodup_listing (forest : Forest) : forest.listing.Nodup :=
  nodup_flatMap_subtree fun root _ => nodup_subtree forest root

/-- The listing holds every node once. -/
theorem listing_perm (forest : Forest) : forest.listing.Perm (List.range forest.size) := by
  apply (List.perm_ext_iff_of_nodup (nodup_listing forest) List.nodup_range).mpr
  intro index
  rw [mem_listing_iff, List.mem_range]

end SourceOutline.Graph.Forest
