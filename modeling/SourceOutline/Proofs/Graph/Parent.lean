import SourceOutline.Graph.Parent

/-!
# The nearest candidate

Candidates are listed from the nearest back, so the first one is found by cutting the list at
the last declaration in front that passes the test.
-/

namespace SourceOutline.Graph

/-- Where a declaration passes and none between it and the index does, that one is the first
candidate. -/
theorem head?_candidates {tree farther nearer : List Declaration} {outer : Declaration}
    {index : Nat} {test : Declaration → Bool} (cut : tree.take index = farther ++ outer :: nearer)
    (passes : test outer = true) (between : ∀ other ∈ nearer, test other = false) :
    (candidates tree index test).head? = some farther.length := by
  have skipped : (nearer.zipIdx (0 + farther.length + 1)).filter
      (fun entry => test entry.1) = [] := by
    rw [List.filter_eq_nil_iff]
    intro entry listed
    simp [between entry.1 (List.fst_mem_of_mem_zipIdx listed)]
  change ((((tree.take index).zipIdx.filter fun entry => test entry.1).reverse).map
    (·.2)).head? = _
  rw [cut, List.zipIdx_append, List.zipIdx_cons, List.filter_append,
    List.filter_cons_of_pos (by exact passes), skipped, List.reverse_append]
  simp

/-- The nearest declaration that bears the parent's name one level up is the parent, if no level
in between is the largest. -/
theorem findParent_eq_of_cut {tree farther nearer : List Declaration} {outer node : Declaration}
    {index : Nat} (placed : tree[index]? = some node) (below : node.isRoot = false)
    (cut : tree.take index = farther ++ outer :: nearer) (name : outer.name = node.parentName)
    (level : outer.level + 1 = node.level) (raised : outer.level ≠ deepestLevel)
    (between : ∀ other ∈ nearer, other.level ≠ deepestLevel ∧ other.level + 1 ≠ node.level) :
    findParent tree index = .ok (some farther.length) := by
  have nearest : (candidates tree index fun other => other.name == node.parentName &&
      (other.level == deepestLevel || other.level + 1 == node.level)).head? =
      some farther.length := by
    apply head?_candidates cut
    · simp [name, level]
    · intro other listed
      simp [between other listed]
  have found : tree[farther.length]? = some outer := by
    have inside : (tree.take index)[farther.length]? = some outer := by simp [cut]
    rw [List.getElem?_take] at inside
    split at inside
    · exact inside
    · contradiction
  simp only [findParent, placed, below, nearest, found]
  simp [raised]

end SourceOutline.Graph
