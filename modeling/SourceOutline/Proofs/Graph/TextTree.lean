import SourceOutline.Graph.TextTree
import SourceOutline.Proofs.Graph.Forest
import SourceOutline.Proofs.Graph.ParentRule
import SourceOutline.Proofs.Text.Lines

/-!
# The text drawing of a declaration list

The drawing goes through a forest that is made from names alone, and it passes over what is
drawn already. The main statement says that this guard is never needed: for every list, the
drawing is the depth-first listing of the forest of parents, with one line per declaration.
The line of a declaration shows the declaration and its place in the forest. A list is drawn
exactly if all searches for parents in it succeed.
-/

namespace SourceOutline.Graph

/-! ## The forest of a list -/

/-- The forest of a list has its declarations as nodes. -/
@[simp] theorem size_forestOf (tree : List Declaration) : (forestOf tree).size = tree.length := by
  simp [Forest.size, forestOf]

/-- A place behind the end of the list has no parent. -/
theorem parent?_eq_none_of_length_le {tree : List Declaration} {index : Nat}
    (outside : tree.length ≤ index) : parent? tree index = none := by
  rw [parent?, findParent, List.getElem?_eq_none outside]
  rfl

/-- The forest of a list has the parents that names resolve to. -/
@[simp] theorem parent?_forestOf (tree : List Declaration) (index : Nat) :
    (forestOf tree).parent? index = parent? tree index := by
  simp only [Forest.parent?, forestOf, List.getElem?_map]
  by_cases inside : index < tree.length
  · rw [List.getElem?_range inside, Option.map_some, Option.join_some]
  · rw [List.getElem?_eq_none (by simpa using inside),
      parent?_eq_none_of_length_le (Nat.le_of_not_lt inside), Option.map_none, Option.join_none]

/-- Children stand in the order of the list. -/
theorem childrenOf_forestOf (tree : List Declaration) (owner : Option Nat) :
    (forestOf tree).childrenOf owner =
      (List.range tree.length).filter fun index => parent? tree index == owner := by
  have numbered : (forestOf tree).parents.zipIdx =
      (List.range tree.length).map fun index => (parent? tree index, index) :=
    List.ext_getElem (by simp [forestOf]) (by simp [forestOf])
  rw [Forest.childrenOf, numbered, List.filter_map, List.map_map]
  exact List.map_id _

/-! ## The line of a declaration -/

/-- What stands in front of the connector of a node: the gutters of its ancestors, from the
root on. -/
def indentation (forest : Forest) (index : Nat) : String :=
  String.join ((forest.ancestors index).reverse.map fun ancestor =>
    gutter (forest.isLast ancestor))

/-- The line of the declaration at an index. -/
def row (tree : List Declaration) (forest : Forest) (index : Nat) : String :=
  indentation forest index ++ connector (forest.isLast index) ++ (tree.map caption).getD index ""

/-- The line of a declaration spelled out: the connector of a last child stands exactly on the
last child of its parent. -/
theorem row_eq {tree : List Declaration} {index : Nat} {declaration : Declaration}
    (placed : tree[index]? = some declaration) :
    row tree (forestOf tree) index = indentation (forestOf tree) index ++
      (if ((forestOf tree).childrenOf (parent? tree index)).getLast? = some index then "└─ "
        else "├─ ") ++ caption declaration := by
  rw [row, List.getD_eq_getElem?_getD, List.getElem?_map, placed, Option.map_some,
    Option.getD_some, connector, Forest.isLast, parent?_forestOf]
  simp only [beq_iff_eq]

/-- What a line shows of a declaration: the name of a class, or the qualified name of a function
with its parameters. -/
theorem caption_eq (declaration : Declaration) :
    caption declaration =
      match declaration.kind with
      | .cls => "📦 Class: " ++ declaration.name
      | .function =>
        (if declaration.parentName = "" then "⚙️ " ++ declaration.name
          else "🔧 " ++ declaration.parentName ++ "." ++ declaration.name) ++
        "(" ++ ", ".intercalate declaration.parameterNames ++ ")" := by
  rw [caption]
  cases declaration.kind with
  | cls => rfl
  | function =>
    by_cases root : declaration.parentName = ""
    · simp [qualifiedName, Declaration.isRoot, root, String.append_assoc]
    · simp [qualifiedName, Declaration.isRoot, root, String.append_assoc]

/-- A gutter is three characters wide. -/
theorem length_gutter (last : Bool) : (gutter last).length = 3 := by
  cases last <;> decide

/-- A declaration is indented by three characters per ancestor. -/
theorem length_indentation (forest : Forest) (index : Nat) :
    (indentation forest index).length = 3 * (forest.ancestors index).length := by
  have widths : (forest.ancestors index).reverse.map
      (String.length ∘ fun ancestor => gutter (forest.isLast ancestor)) =
      (forest.ancestors index).reverse.map fun _ => 3 := by
    apply List.map_congr_left
    intro ancestor _
    exact length_gutter _
  rw [indentation, String.length_join, List.map_map, widths, List.map_const',
    List.sum_replicate_nat, List.length_reverse, Nat.mul_comm]

/-- A child is indented by its parent's gutter more than its parent. -/
theorem indentation_child {forest : Forest} {index child : Nat}
    (listed : child ∈ forest.childrenOf (some index)) :
    indentation forest child = indentation forest index ++ gutter (forest.isLast index) := by
  rw [indentation, indentation, Forest.ancestors_of_child (Forest.mem_childrenOf.mp listed),
    List.reverse_cons, List.map_append, String.join_append]
  simp

/-- A root is not indented. -/
theorem indentation_root {forest : Forest} {index : Nat}
    (listed : index ∈ forest.childrenOf none) : indentation forest index = "" := by
  rw [indentation, Forest.ancestors_of_root (Forest.parent?_of_mem_childrenOf listed)]
  rfl

/-- A node is indented by a gutter more than its parent: blank below a last child, and otherwise with
the line that leads on to the next one. -/
theorem indentation_eq (forest : Forest) (index : Nat) :
    indentation forest index = (forest.parent? index).elim "" fun parent =>
      indentation forest parent ++
        if (forest.childrenOf (forest.parent? parent)).getLast? = some parent then "   "
        else "│  " := by
  cases found : forest.parent? index with
  | none =>
    rw [indentation, Forest.ancestors_of_root found]
    rfl
  | some parent =>
    have listed := Forest.mem_childrenOf.mpr (Option.join_eq_some_iff.mp found)
    rw [Option.elim_some, indentation_child listed, gutter, Forest.isLast]
    simp only [beq_iff_eq]

/-- On distinct elements, the flag is set where the element is the last. -/
theorem flagLast_eq_map {items : List Nat} (distinct : items.Nodup) :
    flagLast items = items.map fun item => (item, items.getLast? == some item) := by
  fun_induction flagLast items with
  | case1 => rfl
  | case2 last => simp
  | case3 item items several ih =>
    obtain ⟨absent, distinct⟩ := List.nodup_cons.mp distinct
    cases items with
    | nil => exact absurd rfl several
    | cons next rest =>
      have other : (next :: rest).getLast? ≠ some item := by
        intro found
        exact absent (List.mem_of_getLast? found)
      rw [ih distinct, List.getLast?_cons_cons]
      simp only [List.map_cons, beq_eq_false_iff_ne.mpr other]

/-- Among the children of a node the flag is set on the last one. -/
theorem flagLast_childrenOf (forest : Forest) (owner : Option Nat) :
    flagLast (forest.childrenOf owner) =
      (forest.childrenOf owner).map fun child => (child, forest.isLast child) := by
  rw [flagLast_eq_map (Forest.nodup_childrenOf forest owner)]
  apply List.map_congr_left
  intro child listed
  rw [Forest.isLast, Forest.parent?_of_mem_childrenOf listed]

/-! ## Drawing -/

/-- Draws nodes with their flags one after the other. -/
def drawAll (tree : List Declaration) (forest : Forest) (indent : String)
    (nodes : List (Nat × Bool)) (drawing : Drawing) : Drawing :=
  nodes.foldl (fun drawing node => drawNode tree forest indent node.2 node.1 drawing) drawing

/-- The drawing after the declaration at an index has put its own line. -/
def Drawing.enter (drawing : Drawing) (index : Nat) (line : String) : Drawing :=
  ⟨index :: drawing.visited, line :: drawing.lines⟩

/-- The drawing after the listed nodes have put their lines. -/
def Drawing.after (drawing : Drawing) (line : Nat → String) (listed : List Nat) : Drawing :=
  ⟨listed.reverse ++ drawing.visited, (listed.map line).reverse ++ drawing.lines⟩

/-- A drawing grows list by list. -/
theorem Drawing.after_append (drawing : Drawing) (line : Nat → String) (first second : List Nat) :
    drawing.after line (first ++ second) = (drawing.after line first).after line second := by
  simp [Drawing.after]

/-- A declaration that is not drawn yet puts its line, and then its children are drawn. -/
theorem drawNode_of_not_mem {tree : List Declaration} {declaration : Declaration}
    (forest : Forest) (indent : String) (last : Bool) {index : Nat} {drawing : Drawing}
    (fresh : index ∉ drawing.visited) (placed : tree[index]? = some declaration) :
    drawNode tree forest indent last index drawing =
      drawAll tree forest (indent ++ gutter last) (flagLast (forest.childrenOf (some index)))
        (drawing.enter index (indent ++ connector last ++ caption declaration)) := by
  rw [drawNode, if_neg (by simpa using fresh), placed]
  exact List.foldl_attach
    (f := fun drawing (node : Nat × Bool) =>
      drawNode tree forest (indent ++ gutter last) node.2 node.1 drawing)

/-- Nodes that each add their subtree add their subtrees one after the other. -/
theorem drawAll_eq_after {tree : List Declaration} {forest : Forest} {indent : String}
    {nodes : List Nat} {drawing : Drawing}
    (each : ∀ node ∈ nodes, ∀ drawing : Drawing,
      (forest.subtree node).Disjoint drawing.visited →
      drawNode tree forest indent (forest.isLast node) node drawing =
        drawing.after (row tree forest) (forest.subtree node))
    (distinct : (nodes.flatMap forest.subtree).Nodup)
    (fresh : (nodes.flatMap forest.subtree).Disjoint drawing.visited) :
    drawAll tree forest indent (nodes.map fun node => (node, forest.isLast node)) drawing =
      drawing.after (row tree forest) (nodes.flatMap forest.subtree) := by
  induction nodes generalizing drawing with
  | nil => rfl
  | cons node nodes ih =>
    rw [List.flatMap_cons] at distinct fresh ⊢
    obtain ⟨_, restDistinct, apart⟩ := List.nodup_append'.mp distinct
    obtain ⟨nodeFresh, restFresh⟩ := List.disjoint_append_left.mp fresh
    have step := each node List.mem_cons_self drawing nodeFresh
    have later : (nodes.flatMap forest.subtree).Disjoint
        (drawing.after (row tree forest) (forest.subtree node)).visited := by
      rw [Drawing.after, List.disjoint_append_right]
      exact ⟨fun _ inRest inNode => apart (List.mem_reverse.mp inNode) inRest, restFresh⟩
    rw [List.map_cons, drawAll, List.foldl_cons, step, Drawing.after_append]
    exact ih (fun other listed => each other (List.mem_cons_of_mem node listed)) restDistinct later

/-- Drawing a node that has nothing of its subtree drawn yet adds its subtree. -/
theorem drawNode_eq_after {tree : List Declaration} {forest : Forest}
    (sized : forest.size = tree.length) {index : Nat} (inside : index < forest.size)
    {drawing : Drawing} (fresh : (forest.subtree index).Disjoint drawing.visited) :
    drawNode tree forest (indentation forest index) (forest.isLast index) index drawing =
      drawing.after (row tree forest) (forest.subtree index) := by
  induction index using Forest.subtree.induct forest generalizing drawing with
  | case1 index ih =>
    have placed : tree[index]? = some tree[index] := List.getElem?_eq_getElem (sized ▸ inside)
    have own : index ∉ drawing.visited := fresh (Forest.self_mem_subtree forest index)
    have line : indentation forest index ++ connector (forest.isLast index) ++
        caption tree[index] = row tree forest index := by
      rw [row, List.getD_eq_getElem?_getD, List.getElem?_map, placed, Option.map_some,
        Option.getD_some]
    have parts := Forest.nodup_subtree forest index
    rw [Forest.subtree_eq] at fresh parts ⊢
    obtain ⟨absent, distinct⟩ := List.nodup_cons.mp parts
    obtain ⟨_, childrenFresh⟩ := List.disjoint_cons_left.mp fresh
    rw [drawNode_of_not_mem forest _ _ own placed, line, flagLast_childrenOf]
    -- The children are drawn after the node itself, which is none of them.
    refine (drawAll_eq_after ?_ distinct ?_).trans ?_
    · intro child listed drawing childFresh
      rw [← indentation_child listed]
      exact ih ⟨child, listed⟩ (Forest.lt_of_mem_childrenOf listed).2 childFresh
    · exact List.disjoint_cons_right.mpr ⟨absent, childrenFresh⟩
    · simp [Drawing.after, Drawing.enter]

/-- Drawing a tree lists its forest. -/
theorem drawTree_eq (tree : List Declaration) :
    drawTree tree =
      Drawing.after {} (row tree (forestOf tree)) (forestOf tree).listing := by
  rw [drawTree, flagLast_childrenOf]
  apply drawAll_eq_after
  · intro root listed drawing fresh
    rw [← indentation_root listed]
    exact drawNode_eq_after (size_forestOf tree) (Forest.lt_size_of_mem_childrenOf listed) fresh
  · exact Forest.nodup_listing _
  · exact List.disjoint_nil_right _

/-- The lines of a tree are the line of the module and a line for each node listed. -/
theorem textTreeLines_eq (tree : List Declaration) :
    textTreeLines tree =
      "📄 Module" :: (forestOf tree).listing.map (row tree (forestOf tree)) := by
  rw [textTreeLines, drawTree_eq]
  simp [Drawing.after]

/-! ## The guard -/

/-- The calls of `drawNode` that the drawing of a tree makes: indentation, flag and index, and
what is drawn when the call is made. -/
inductive Call (tree : List Declaration) : String → Bool → Nat → Drawing → Prop where
  /-- A root is drawn after the roots before it. -/
  | root {earlier later : List (Nat × Bool)} {index : Nat} {last : Bool}
      (split : flagLast ((forestOf tree).childrenOf none) = earlier ++ (index, last) :: later) :
      Call tree "" last index (drawAll tree (forestOf tree) "" earlier {})
  /-- A call that passes the guard draws each child after the children before it. -/
  | child {indent : String} {last flag : Bool} {index child : Nat} {drawing : Drawing}
      {declaration : Declaration} {earlier later : List (Nat × Bool)}
      (caller : Call tree indent last index drawing) (passed : index ∉ drawing.visited)
      (placed : tree[index]? = some declaration)
      (split : flagLast ((forestOf tree).childrenOf (some index)) =
        earlier ++ (child, flag) :: later) :
      Call tree (indent ++ gutter last) flag child
        (drawAll tree (forestOf tree) (indent ++ gutter last) earlier
          (drawing.enter index (indent ++ connector last ++ caption declaration)))

/-- When a child is drawn after the children before it, nothing of its subtree is drawn. -/
theorem disjoint_drawAll_earlier {tree : List Declaration} {owner : Option Nat} {indent : String}
    (drawing : Drawing) {earlier later : List (Nat × Bool)} {node : Nat} {flag : Bool}
    (indented : ∀ child ∈ (forestOf tree).childrenOf owner,
      indentation (forestOf tree) child = indent)
    (fresh : (((forestOf tree).childrenOf owner).flatMap (forestOf tree).subtree).Disjoint
      drawing.visited)
    (split : flagLast ((forestOf tree).childrenOf owner) = earlier ++ (node, flag) :: later) :
    node ∈ (forestOf tree).childrenOf owner ∧ flag = (forestOf tree).isLast node ∧
      ((forestOf tree).subtree node).Disjoint
        (drawAll tree (forestOf tree) indent earlier drawing).visited := by
  rw [flagLast_childrenOf, List.map_eq_append_iff] at split
  obtain ⟨before, rest, whole, rfl, split⟩ := split
  obtain ⟨found, after, rfl, same, _⟩ := List.map_eq_cons_iff.mp split
  obtain ⟨rfl, rfl⟩ := Prod.mk.inj same.symm
  have member : ∀ child ∈ before, child ∈ (forestOf tree).childrenOf owner := by
    intro child listed
    rw [whole]
    exact List.mem_append_left _ listed
  have listed : node ∈ (forestOf tree).childrenOf owner := by
    rw [whole]
    exact List.mem_append_right _ List.mem_cons_self
  have distinct := Forest.nodup_flatMap_subtree
    fun child (_ : child ∈ (forestOf tree).childrenOf owner) =>
      Forest.nodup_subtree (forestOf tree) child
  rw [whole, List.flatMap_append, List.flatMap_cons] at distinct fresh
  obtain ⟨beforeDistinct, _, apart⟩ := List.nodup_append'.mp distinct
  obtain ⟨beforeFresh, restFresh⟩ := List.disjoint_append_left.mp fresh
  have drawn : drawAll tree (forestOf tree) indent
      (before.map fun child => (child, (forestOf tree).isLast child)) drawing =
      drawing.after (row tree (forestOf tree)) (before.flatMap (forestOf tree).subtree) := by
    refine drawAll_eq_after ?_ beforeDistinct beforeFresh
    intro child inBefore drawing childFresh
    rw [← indented child (member child inBefore)]
    exact drawNode_eq_after (size_forestOf tree) (Forest.lt_size_of_mem_childrenOf
      (member child inBefore)) childFresh
  rw [drawn, Drawing.after, List.disjoint_append_right]
  refine ⟨listed, rfl, ?_, (List.disjoint_append_left.mp restFresh).1⟩
  intro inner inNode inBefore
  exact apart (List.mem_reverse.mp inBefore) (List.mem_append_left _ inNode)

/-- Every call is made for a node of the forest, with the indentation and the flag of its
place, when nothing of its subtree is drawn. -/
theorem Call.invariant {tree : List Declaration} {indent : String} {last : Bool} {index : Nat}
    {drawing : Drawing} (call : Call tree indent last index drawing) :
    indent = indentation (forestOf tree) index ∧ last = (forestOf tree).isLast index ∧
      ((forestOf tree).subtree index).Disjoint drawing.visited := by
  induction call with
  | root split =>
    obtain ⟨listed, flag, fresh⟩ := disjoint_drawAll_earlier {}
      (fun child listed => indentation_root listed) (List.disjoint_nil_right _) split
    exact ⟨(indentation_root listed).symm, flag, fresh⟩
  | child caller passed placed split ih =>
    rename_i indent last flag index child drawing declaration earlier later
    obtain ⟨rfl, rfl, unvisited⟩ := ih
    have parts := Forest.nodup_subtree (forestOf tree) index
    rw [Forest.subtree_eq] at parts unvisited
    obtain ⟨listed, flag, fresh⟩ := disjoint_drawAll_earlier (drawing.enter index _)
      (fun child listed => indentation_child listed)
      (List.disjoint_cons_right.mpr
        ⟨(List.nodup_cons.mp parts).1, (List.disjoint_cons_left.mp unvisited).2⟩) split
    exact ⟨(indentation_child listed).symm, flag, fresh⟩

/-- No call is made for a declaration that is drawn already. -/
theorem Call.not_mem_visited {tree : List Declaration} {indent : String} {last : Bool}
    {index : Nat} {drawing : Drawing} (call : Call tree indent last index drawing) :
    index ∉ drawing.visited :=
  call.invariant.2.2 (Forest.self_mem_subtree (forestOf tree) index)

/-! ## Counting lines -/

/-- No name and no parameter of the declaration contains a line feed. -/
def SingleLine (declaration : Declaration) : Prop :=
  '\n' ∉ declaration.name.toList ∧ '\n' ∉ declaration.parentName.toList ∧
    ∀ parameter ∈ declaration.parameterNames, '\n' ∉ parameter.toList

/-- Whether a declaration takes one line can be tested. -/
instance : DecidablePred SingleLine := fun _ => inferInstanceAs (Decidable (_ ∧ _ ∧ _))

/-- The caption of a declaration whose texts have no line feed has none. -/
theorem newline_not_mem_caption {declaration : Declaration} (single : SingleLine declaration) :
    '\n' ∉ (caption declaration).toList := by
  obtain ⟨name, parent, parameters⟩ := single
  have qualified : '\n' ∉ (qualifiedName declaration).toList := by
    unfold qualifiedName
    split
    · exact name
    · simp [name, parent]
  have joined : '\n' ∉ [',', ' '].intercalate (declaration.parameterNames.map String.toList) := by
    apply Text.not_mem_intercalate (by decide)
    intro piece listed
    obtain ⟨parameter, inside, rfl⟩ := List.mem_map.mp listed
    exact parameters parameter inside
  unfold caption
  split
  · simp [name]
  · split <;> simp [qualified, joined]

/-- The indentation has no line feed. -/
theorem newline_not_mem_indentation (forest : Forest) (index : Nat) :
    '\n' ∉ (indentation forest index).toList := by
  rw [indentation, String.toList_join, List.flatMap_map]
  intro found
  obtain ⟨ancestor, _, inGutter⟩ := List.mem_flatMap.mp found
  cases last : forest.isLast ancestor <;> simp [gutter, last] at inGutter

/-- The line of a declaration has the line feeds of its caption. -/
theorem count_newline_row (tree : List Declaration) (forest : Forest) (index : Nat) :
    (row tree forest index).toList.count '\n' =
      ((tree.map caption).getD index "").toList.count '\n' := by
  have connected : '\n' ∉ (connector (forest.isLast index)).toList := by
    cases forest.isLast index <;> decide
  rw [row, String.toList_append, String.toList_append, List.count_append, List.count_append,
    List.count_eq_zero.mpr (newline_not_mem_indentation forest index),
    List.count_eq_zero.mpr connected, Nat.zero_add]

/-- The lines of all declarations have the line feeds of all captions. -/
theorem sum_count_newline_rows (tree : List Declaration) :
    (((forestOf tree).listing.map (row tree (forestOf tree))).map
      fun line => line.toList.count '\n').sum =
      (tree.map fun declaration => (caption declaration).toList.count '\n').sum := by
  have places : (List.range tree.length).map
      (fun index => ((tree.map caption).getD index "").toList.count '\n') =
      tree.map fun declaration => (caption declaration).toList.count '\n' := by
    apply List.ext_getElem
    · simp
    · intro index _ inside
      rw [List.length_map] at inside
      simp [inside]
  have same : (fun line : String => line.toList.count '\n') ∘ row tree (forestOf tree) =
      fun index => ((tree.map caption).getD index "").toList.count '\n' :=
    funext fun index => count_newline_row tree (forestOf tree) index
  rw [List.map_map, ← places, same, ← size_forestOf tree]
  exact ((Forest.listing_perm (forestOf tree)).map _).sum_nat

/-- The lines of a tree are a line for the module, one for each declaration, and those that line
feeds in captions add. -/
theorem length_splitLines_textTreeLines (tree : List Declaration) :
    (Text.splitLines ("\n".intercalate (textTreeLines tree)).toList).length = tree.length + 1 +
      (tree.map fun declaration => (caption declaration).toList.count '\n').sum := by
  have shape : (textTreeLines tree).map String.toList ≠ [] := by simp [textTreeLines]
  have joined := Text.count_intercalate '\n' _ shape
  have rows := sum_count_newline_rows tree
  have nodes : (forestOf tree).listing.length = tree.length := by
    simpa using (Forest.listing_perm (forestOf tree)).length_eq
  rw [textTreeLines_eq] at joined
  simp only [List.map_cons, List.map_map, List.length_cons, List.length_map, List.sum_cons,
    nodes, show "📄 Module".toList.count '\n' = 0 by decide, Nat.zero_add] at joined rows
  rw [Text.length_splitLines, String.toList_intercalate, textTreeLines_eq, List.map_cons,
    List.map_map, show "\n".toList = ['\n'] by decide, joined, ← rows]
  rfl

/-- Captions without line feeds add no line. -/
theorem sum_count_newline_captions {tree : List Declaration}
    (single : ∀ declaration ∈ tree, SingleLine declaration) :
    (tree.map fun declaration => (caption declaration).toList.count '\n').sum = 0 := by
  rw [List.sum_eq_zero_iff_forall_eq_nat]
  intro count listed
  obtain ⟨declaration, inside, rfl⟩ := List.mem_map.mp listed
  exact List.count_eq_zero.mpr (newline_not_mem_caption (single declaration inside))

/-! ## The drawing as a whole -/

/-- A list whose levels fit is drawn, with its lines. -/
theorem textTree_of_fits {tree : List Declaration} (nonempty : tree ≠ [])
    (levels : LevelsFit tree) : textTree tree = .ok ("\n".intercalate (textTreeLines tree)) := by
  rw [textTree, if_neg (by simpa using nonempty), (checkParents_eq_ok_iff tree).mpr levels]
  rfl

/-- A list is drawn only if its levels fit. -/
theorem levelsFit_of_textTree_eq_ok {tree : List Declaration} (nonempty : tree ≠ [])
    {text : String} (drawn : textTree tree = .ok text) : LevelsFit tree := by
  rw [textTree, if_neg (by simpa using nonempty)] at drawn
  cases levels : checkParents tree with
  | error overflow => simp [levels, bind, Except.bind] at drawn
  | ok => exact (checkParents_eq_ok_iff tree).mp levels

/-- For every list with a declaration, the text is the line of the module and then the
depth-first listing of the forest of parents, children in the order of the list. It is drawn
exactly if the levels of the list fit, and then the parents are those that the searches give.
Every declaration is listed once. Its line has a gutter of three characters for each of its
ancestors, then the connector, which tells whether it is a last child, and then the name of the class
or the qualified name and the parameters of the function. No call meets a declaration that is drawn
already. There are as many lines as declarations and one more, besides those that line feeds in
captions add. -/
theorem textTree_eq_depth_first (tree : List Declaration) (nonempty : tree ≠ []) :
    let forest := forestOf tree
    ((∃ text, textTree tree = .ok text) ↔ LevelsFit tree) ∧
    (LevelsFit tree → ∀ index, findParent tree index = .ok (forest.parent? index)) ∧
    (∀ text, textTree tree = .ok text →
      text = "\n".intercalate ("📄 Module" :: forest.listing.map (row tree forest)) ∧
      (Text.splitLines text.toList).length = tree.length + 1 +
        (tree.map fun declaration => (caption declaration).toList.count '\n').sum ∧
      ((∀ declaration ∈ tree, SingleLine declaration) →
        (Text.splitLines text.toList).length = tree.length + 1)) ∧
    forest.listing = (forest.childrenOf none).flatMap forest.subtree ∧
    (∀ index, forest.subtree index =
      index :: (forest.childrenOf (some index)).flatMap forest.subtree) ∧
    forest.listing.Perm (List.range tree.length) ∧
    (∀ owner, forest.childrenOf owner =
      (List.range tree.length).filter fun index => forest.parent? index == owner) ∧
    (∀ index declaration, tree[index]? = some declaration →
      row tree forest index = indentation forest index ++
        (if (forest.childrenOf (forest.parent? index)).getLast? = some index then "└─ "
          else "├─ ") ++ caption declaration) ∧
    (∀ declaration, caption declaration =
      match declaration.kind with
      | .cls => "📦 Class: " ++ declaration.name
      | .function =>
        (if declaration.parentName = "" then "⚙️ " ++ declaration.name
          else "🔧 " ++ declaration.parentName ++ "." ++ declaration.name) ++
        "(" ++ ", ".intercalate declaration.parameterNames ++ ")") ∧
    (∀ index, indentation forest index = (forest.parent? index).elim "" fun parent =>
      indentation forest parent ++
        if (forest.childrenOf (forest.parent? parent)).getLast? = some parent then "   "
        else "│  ") ∧
    (∀ index, (indentation forest index).length = 3 * (forest.ancestors index).length) ∧
    (∀ index, forest.ancestors index =
      (forest.parent? index).elim [] fun parent => parent :: forest.ancestors parent) ∧
    ∀ indent last index drawing, Call tree indent last index drawing →
      index ∉ drawing.visited := by
  refine ⟨⟨fun ⟨_, drawn⟩ => levelsFit_of_textTree_eq_ok nonempty drawn,
      fun levels => ⟨_, textTree_of_fits nonempty levels⟩⟩,
    fun levels index => by rw [levels.findParent_eq, parent?_forestOf], ?_, rfl,
    Forest.subtree_eq (forestOf tree), by simpa using Forest.listing_perm (forestOf tree), ?_, ?_,
    caption_eq, indentation_eq (forestOf tree), length_indentation (forestOf tree),
    Forest.ancestors_eq (forestOf tree),
    fun _ _ _ _ call => call.not_mem_visited⟩
  · intro text drawn
    have levels := levelsFit_of_textTree_eq_ok nonempty drawn
    obtain rfl := Except.ok.inj ((textTree_of_fits nonempty levels).symm.trans drawn)
    refine ⟨by rw [textTreeLines_eq], length_splitLines_textTreeLines tree, fun single => ?_⟩
    rw [length_splitLines_textTreeLines, sum_count_newline_captions single, Nat.add_zero]
  · intro owner
    simp only [childrenOf_forestOf, parent?_forestOf]
  · intro index declaration placed
    rw [parent?_forestOf, row_eq placed]

/-- A class, a method that bears the name of the class, a function that names both, and a function
whose parent is missing. -/
def selfNamedTree : List Declaration :=
  [⟨.cls, "A", "", 0, []⟩, ⟨.function, "A", "A", 1, ["x"]⟩, ⟨.function, "leaf", "A", 2, []⟩,
    ⟨.function, "lost", "Missing", 7, ["a", "b"]⟩]

/-- The lines of a list in which a name is its own parent's name and a parent is missing. -/
theorem textTree_selfNamedTree :
    selfNamedTree ≠ [] ∧ (∀ declaration ∈ selfNamedTree, SingleLine declaration) ∧
    textTree selfNamedTree = .ok ("\n".intercalate
      ["📄 Module", "├─ 📦 Class: A", "│  └─ 🔧 A.A(x)", "│     └─ 🔧 A.leaf()",
        "└─ 🔧 Missing.lost(a, b)"]) ∧
    (∀ text, textTree selfNamedTree = .ok text → (Text.splitLines text.toList).length = 5) := by
  have nonempty : selfNamedTree ≠ [] := by decide
  have single : ∀ declaration ∈ selfNamedTree, SingleLine declaration := by decide
  obtain ⟨drawn, _, lines, _⟩ := textTree_eq_depth_first selfNamedTree nonempty
  obtain ⟨text, found⟩ := drawn.mpr ((checkParents_eq_ok_iff selfNamedTree).mp rfl)
  refine ⟨nonempty, single, ?_, fun text found => (lines text found).2.2 single⟩
  rw [found, (lines text found).1]
  decide +kernel

/-- A function of the largest level and one inside it that bears its name. -/
def deepFunctionTree : List Declaration :=
  [⟨.function, "run", "", 18446744073709551615, []⟩, ⟨.function, "run", "run", 0, []⟩]

/-- A list that is not drawn: the search for the parent of the inner function fails. -/
theorem textTree_deepFunctionTree :
    deepFunctionTree ≠ [] ∧ textTree deepFunctionTree = .error (.level 0) :=
  ⟨by decide, rfl⟩

end SourceOutline.Graph
