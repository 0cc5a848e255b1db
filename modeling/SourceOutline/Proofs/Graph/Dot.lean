import Mathlib.Logic.Relation
import SourceOutline.Proofs.Graph.NodeName
import SourceOutline.Proofs.Graph.ParentRule

/-!
# The graph of a declaration list is a tree

The graph text has a statement for every declaration and an edge to every declaration, each in
the order of the list. An edge starts at the module or at an earlier declaration, so the edges
form a tree below the module, whatever the names of the declarations and of their parents.
Parameters occur in labels only.

There is a text for every list whose levels and numbers can be counted, and for no other.
-/

namespace SourceOutline.Graph

/-- The edges of the graph, in order, each from the name of the parent. -/
def edges (tree : List Declaration) : List (String × String) :=
  (uniqueIds tree).zipIdx.map fun (id, index) => (parentId tree (uniqueIds tree) index, id)

/-- The statement of an edge. -/
def edgeText (edge : String × String) : String := "    " ++ edge.1 ++ " -> " ++ edge.2 ++ ";"

/-- Edges that make a tree of a root and the nodes listed: one edge ends at each node, none at
the root, and every node is reached from the root. -/
structure IsTreeBelow (root : String) (nodes : List String) (edges : List (String × String)) :
    Prop where
  /-- One edge ends at each node, in order. -/
  targets : edges.map Prod.snd = nodes
  /-- Nodes are distinct. -/
  distinct : nodes.Nodup
  /-- The root is not one of the nodes. -/
  root_not_mem : root ∉ nodes
  /-- Following edges leads from the root to every node. -/
  reached : ∀ node ∈ nodes, Relation.TransGen (fun source target => (source, target) ∈ edges)
    root node

/-- A declaration with its parameters left out. -/
def withoutParameters (declaration : Declaration) : Declaration :=
  { declaration with parameterNames := [] }

/-! ## The text -/

/-- Every declaration has a name. -/
@[simp] theorem length_uniqueIds (tree : List Declaration) :
    (uniqueIds tree).length = tree.length :=
  length_assignIds [rootId] tree

/-- Every declaration has an edge. -/
@[simp] theorem length_edges (tree : List Declaration) : (edges tree).length = tree.length := by
  simp [edges]

/-- The lines of the graph: the header, the statements, the edges and the closing brace. -/
theorem dotLines_eq (limit : Nat) (tree : List Declaration) :
    dotLines limit tree =
      header ++ List.zipWith (declarationStatement limit) tree (uniqueIds tree) ++
        (edges tree).map edgeText ++ ["\x7d"] := by
  rw [dotLines, edges, List.map_map]
  rfl

/-- A list whose counts fit has a graph, made of its lines. -/
theorem dot?_of_fits (limit : Nat) {tree : List Declaration} (nonempty : tree ≠ [])
    (levels : LevelsFit tree) (numbers : NumbersFit tree) :
    dot? limit tree = .ok (some ("\n".intercalate (dotLines limit tree))) := by
  rw [dot?, if_neg (by simpa using nonempty),
    (checkNumbers_eq_ok_iff [rootId] tree).mpr numbers, (checkParents_eq_ok_iff tree).mpr levels]
  rfl

/-- A list has a graph only if its counts fit. -/
theorem fits_of_dot?_eq_ok {limit : Nat} {tree : List Declaration} (nonempty : tree ≠ [])
    {graph : Option String} (drawn : dot? limit tree = .ok graph) :
    LevelsFit tree ∧ NumbersFit tree := by
  rw [dot?, if_neg (by simpa using nonempty)] at drawn
  cases numbers : checkNumbers [rootId] tree with
  | error overflow => simp [numbers, bind, Except.bind] at drawn
  | ok =>
    cases levels : checkParents tree with
    | error overflow => simp [numbers, levels, bind, Except.bind] at drawn
    | ok =>
      exact ⟨(checkParents_eq_ok_iff tree).mp levels,
        (checkNumbers_eq_ok_iff [rootId] tree).mp numbers⟩

/-! ## The edges -/

/-- The edge of a declaration ends at its name and starts at the name of its parent. -/
theorem getElem?_edges (tree : List Declaration) (index : Nat) :
    (edges tree)[index]? =
      (uniqueIds tree)[index]?.map fun id => (parentId tree (uniqueIds tree) index, id) := by
  rw [edges, List.getElem?_map, List.getElem?_zipIdx, Option.map_map, Nat.zero_add]
  rfl

/-- A parent's name is that of the module or of an earlier declaration. -/
theorem parentId_eq (tree : List Declaration) (index : Nat) :
    (parent? tree index = none ∧ parentId tree (uniqueIds tree) index = rootId) ∨
      ∃ parent, parent? tree index = some parent ∧ parent < index ∧
        (uniqueIds tree)[parent]? = some (parentId tree (uniqueIds tree) index) := by
  cases found : parent? tree index with
  | none =>
    left
    rw [parentId, found]
    exact ⟨rfl, rfl⟩
  | some parent =>
    right
    have before := parent?_lt found
    have inside : index < tree.length := by
      by_contra outside
      rw [parent?, findParent, List.getElem?_eq_none (Nat.le_of_not_lt outside)] at found
      contradiction
    have named := List.getElem?_eq_getElem
      (show parent < (uniqueIds tree).length by rw [length_uniqueIds]; omega)
    refine ⟨parent, rfl, before, ?_⟩
    rw [parentId, found, Option.bind_some, named, Option.getD_some]

/-- Every declaration is reached from the module. -/
theorem transGen_edges (tree : List Declaration) {index : Nat} {id : String}
    (named : (uniqueIds tree)[index]? = some id) :
    Relation.TransGen (fun source target => (source, target) ∈ edges tree) rootId id := by
  induction index using Nat.strongRecOn generalizing id with
  | ind index ih =>
    have edge : (parentId tree (uniqueIds tree) index, id) ∈ edges tree := by
      apply List.mem_of_getElem? (i := index)
      rw [getElem?_edges, named, Option.map_some]
    rcases parentId_eq tree index with ⟨_, top⟩ | ⟨parent, _, before, above⟩
    · rw [top] at edge
      exact Relation.TransGen.single edge
    · exact (ih parent before above).tail edge

/-- The edges make a tree below the module. -/
theorem isTreeBelow_edges (tree : List Declaration) :
    IsTreeBelow rootId (uniqueIds tree) (edges tree) where
  targets := by
    rw [edges, List.map_map]
    exact List.zipIdx_map_fst 0 (uniqueIds tree)
  distinct := nodup_assignIds [rootId] tree
  root_not_mem given := not_mem_used_of_mem_assignIds given List.mem_cons_self
  reached node listed := by
    obtain ⟨index, named⟩ := List.getElem?_of_mem listed
    exact transGen_edges tree named

/-! ## Parameters -/

/-- Candidates in a changed list are those of the list that pass the test after the change. -/
theorem candidates_map (change : Declaration → Declaration) (tree : List Declaration)
    (index : Nat) (test : Declaration → Bool) :
    candidates (tree.map change) index test = candidates tree index (test ∘ change) := by
  rw [candidates, candidates, ← List.map_take, List.zipIdx_map, List.filter_map,
    ← List.map_reverse, List.map_map]
  rfl

/-- Searches for parents do not depend on parameters. -/
theorem findParent_map_withoutParameters (tree : List Declaration) (index : Nat) :
    findParent (tree.map withoutParameters) index = findParent tree index := by
  have level (position : Nat) :
      (tree.map withoutParameters)[position]?.any (·.level == deepestLevel) =
        tree[position]?.any (·.level == deepestLevel) := by
    rw [List.getElem?_map, Option.any_map]
    rfl
  rw [findParent, findParent, List.getElem?_map]
  cases tree[index]? with
  | none => rfl
  | some node =>
    simp only [Option.map_some, candidates_map, level]
    rfl

/-- Lists that differ in parameters only have the same names and the same searches, so the same
edges. -/
theorem uniqueIds_edges_congr {left right : List Declaration}
    (same : left.map withoutParameters = right.map withoutParameters) :
    uniqueIds left = uniqueIds right ∧ findParent left = findParent right ∧
      edges left = edges right := by
  have bases : left.map baseId = right.map baseId := by
    have mapped := congrArg (List.map baseId) same
    rwa [List.map_map, List.map_map] at mapped
  have ids : uniqueIds left = uniqueIds right := assignIds_congr bases [rootId]
  have resolved : findParent left = findParent right := by
    funext index
    rw [← findParent_map_withoutParameters left, same, findParent_map_withoutParameters]
  refine ⟨ids, resolved, ?_⟩
  simp only [edges, parentId, parent?, ids, resolved]

/-! ## The graph as a whole -/

/-- For every list with a declaration and every limit, the graph text is the header, a
statement for each declaration with its name and its label, an edge to each declaration and a
closing brace. There is a text exactly if the levels of the list and the numbers behind its names
can be counted, and numbers can be unless the list is about as long as the largest. Names are
distinct node names other than the module's, made of the name asked for and perhaps a number.
The edges make a tree below the module, each from the module or an earlier declaration. Names
and edges do not depend on parameters or on the limit. -/
theorem dot?_eq_tree_below_module (limit : Nat) (tree : List Declaration)
    (nonempty : tree ≠ []) :
    let ids := uniqueIds tree
    ((∃ graph, dot? limit tree = .ok graph) ↔ LevelsFit tree ∧ NumbersFit tree) ∧
    (tree.length < 2147483646 → NumbersFit tree) ∧
    (∀ graph, dot? limit tree = .ok graph → graph = some ("\n".intercalate
      (["digraph CodeTree \x7b", "    rankdir=TB;", "    node [shape=box, style=rounded];",
          "    Module [label=\"📄 Module\", fillcolor=\"#e1f5ff\", style=\"rounded,filled\"];"] ++
        List.zipWith (fun declaration id => "    " ++ id ++ " [label=\"" ++
          String.ofList (escapeLabel (label limit declaration).toList) ++ "\", fillcolor=\"" ++
          color declaration.kind ++ "\", style=\"rounded,filled\"];") tree ids ++
        (edges tree).map (fun (source, target) => "    " ++ source ++ " -> " ++ target ++ ";") ++
        ["\x7d"]))) ∧
    ids.length = tree.length ∧ (edges tree).length = tree.length ∧
    IsTreeBelow "Module" ids (edges tree) ∧
    (∀ index declaration, tree[index]? = some declaration →
      ∃ id, ids[index]? = some id ∧ IsNodeName id ∧
        (id = baseId declaration ∨ ∃ number, 2 ≤ number ∧ number ≤ index + 2 ∧
          id = baseId declaration ++ "_" ++ Nat.repr number)) ∧
    (LevelsFit tree → ∀ index source target, (edges tree)[index]? = some (source, target) →
      ids[index]? = some target ∧
        (findParent tree index = .ok none ∧ source = "Module" ∨
          ∃ parent, findParent tree index = .ok (some parent) ∧ parent < index ∧
            ids[parent]? = some source)) ∧
    (∀ other : List Declaration,
      other.map withoutParameters = tree.map withoutParameters →
        uniqueIds other = ids ∧ findParent other = findParent tree ∧ edges other = edges tree) := by
  refine ⟨⟨fun ⟨_, drawn⟩ => fits_of_dot?_eq_ok nonempty drawn, fun ⟨levels, numbers⟩ =>
      ⟨_, dot?_of_fits limit nonempty levels numbers⟩⟩, ?_, ?_, length_uniqueIds tree,
    length_edges tree, isTreeBelow_edges tree, fun _ _ placed => uniqueIds_spec placed, ?_,
    fun _ same => uniqueIds_edges_congr same⟩
  · intro short
    exact numbersFit_of_length (by rw [largestNumber]; omega)
  · intro graph drawn
    obtain ⟨levels, numbers⟩ := fits_of_dot?_eq_ok nonempty drawn
    rw [dot?_of_fits limit nonempty levels numbers, dotLines_eq] at drawn
    exact (Except.ok.inj drawn).symm
  · intro levels index source target edge
    rw [getElem?_edges, Option.map_eq_some_iff] at edge
    obtain ⟨id, named, same⟩ := edge
    obtain ⟨rfl, rfl⟩ := Prod.mk.inj same
    rw [levels.findParent_eq index]
    refine ⟨named, ?_⟩
    rcases parentId_eq tree index with ⟨none, top⟩ | ⟨parent, found, before, above⟩
    · exact Or.inl ⟨by rw [none], top⟩
    · exact Or.inr ⟨parent, by rw [found], before, above⟩

/-- Names that meet after the replacement, a number that is another declaration's name, and a
parent that does not exist. -/
def collidingTree : List Declaration :=
  [⟨.function, "run", "", 0, []⟩, ⟨.function, "run_2", "", 0, ["x"]⟩,
    ⟨.function, "run", "run", 1, []⟩, ⟨.function, "run?2", "Missing", 1, []⟩]

/-- The names, edges and text of a list with collisions. -/
theorem dot?_collidingTree : collidingTree ≠ [] ∧ LevelsFit collidingTree ∧
    IsTreeBelow "Module" ["function_run", "function_run_2", "function_run_3", "function_run_2_2"]
      [("Module", "function_run"), ("Module", "function_run_2"),
        ("function_run", "function_run_3"), ("Module", "function_run_2_2")] ∧
    dot? 0 collidingTree = .ok (some ("\n".intercalate
      ["digraph CodeTree \x7b", "    rankdir=TB;", "    node [shape=box, style=rounded];",
        "    Module [label=\"📄 Module\", fillcolor=\"#e1f5ff\", style=\"rounded,filled\"];",
        "    function_run [label=\"⚙️ run()\", fillcolor=\"#e1ffe1\", style=\"rounded,filled\"];",
        "    function_run_2 [label=\"⚙️ run_2(...)\", fillcolor=\"#e1ffe1\", " ++
          "style=\"rounded,filled\"];",
        "    function_run_3 [label=\"⚙️ run.run()\", fillcolor=\"#e1ffe1\", " ++
          "style=\"rounded,filled\"];",
        "    function_run_2_2 [label=\"⚙️ Missing.run?2()\", fillcolor=\"#e1ffe1\", " ++
          "style=\"rounded,filled\"];",
        "    Module -> function_run;", "    Module -> function_run_2;",
        "    function_run -> function_run_3;", "    Module -> function_run_2_2;", "\x7d"])) := by
  have nonempty : collidingTree ≠ [] := by decide
  obtain ⟨drawn, short, text, _, _, below, _⟩ :=
    dot?_eq_tree_below_module 0 collidingTree nonempty
  have levels : LevelsFit collidingTree := (checkParents_eq_ok_iff collidingTree).mp rfl
  obtain ⟨graph, found⟩ := drawn.mpr ⟨levels, short (by decide)⟩
  refine ⟨nonempty, levels, below, ?_⟩
  rw [found, text graph found]
  rfl

/-- A class of the largest level and a function that names it its parent. -/
def deepClassTree : List Declaration :=
  [⟨.cls, "A", "", 18446744073709551615, []⟩, ⟨.function, "f", "A", 5, []⟩]

/-- A list without a graph: the search for the parent of the function fails at the class. -/
theorem dot?_deepClassTree :
    deepClassTree ≠ [] ∧ ∀ limit, dot? limit deepClassTree = .error (.level 0) :=
  ⟨by decide, fun _ => rfl⟩

end SourceOutline.Graph
