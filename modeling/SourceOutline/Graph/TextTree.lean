import SourceOutline.Graph.Dot

/-!
# Declaration trees as indented text

The forest of the parent relation, depth first, drawn with box characters below a line
for the module.
-/

namespace SourceOutline.Graph

/-- Shown for a source without declarations. -/
def emptyTreeText : String := "📄 (Simple script - no classes or functions)"

/-- What a declaration's line says behind the connector. -/
def caption (declaration : Declaration) : String :=
  match declaration.kind with
  | .cls => "📦 Class: " ++ declaration.name
  | .function =>
    (if declaration.isRoot then "⚙️" else "🔧") ++ " " ++ qualifiedName declaration ++ "(" ++
      ", ".intercalate declaration.parameterNames ++ ")"

/-- Each element with a flag that is set on the last. -/
def flagLast {α : Type} : List α → List (α × Bool)
  | [] => []
  | [last] => [(last, true)]
  | item :: items => (item, false) :: flagLast items

/-- Flags do not change the elements. -/
theorem mem_of_mem_flagLast {α : Type} {items : List α} {flagged : α × Bool}
    (listed : flagged ∈ flagLast items) : flagged.1 ∈ items := by
  fun_induction flagLast items with
  | case1 => contradiction
  | case2 last => simp_all
  | case3 item items _ ih =>
    rcases List.mem_cons.mp listed with rfl | later
    · exact List.mem_cons_self
    · exact List.mem_cons_of_mem item (ih later)

/-- What is drawn so far, the latest first. -/
structure Drawing where
  /-- The declarations drawn. -/
  visited : List Nat := []
  /-- The lines drawn. -/
  lines : List String := []

/-- What stands in front of a caption. -/
def connector (last : Bool) : String := if last then "└─ " else "├─ "

/-- What a declaration puts in front of the lines below it. -/
def gutter (last : Bool) : String := if last then "   " else "│  "

/-- Draws the declaration at an index and all below it. A declaration that is drawn already
is passed over. A child has a larger index than its parent, which ends the recursion. -/
def drawNode (tree : List Declaration) (forest : Forest) (indent : String) (last : Bool)
    (index : Nat) (drawing : Drawing) : Drawing :=
  if drawing.visited.contains index then drawing
  else
    match tree[index]? with
    | none => drawing
    | some declaration =>
      let line := indent ++ connector last ++ caption declaration
      (flagLast (forest.childrenOf (some index))).attach.foldl
        (fun drawing child =>
          drawNode tree forest (indent ++ gutter last) child.1.2 child.1.1 drawing)
        ⟨index :: drawing.visited, line :: drawing.lines⟩
termination_by forest.size - index
decreasing_by
  have bounds := Forest.lt_of_mem_childrenOf (mem_of_mem_flagLast child.2)
  omega

/-- The drawing of a whole tree, root by root. -/
def drawTree (tree : List Declaration) : Drawing :=
  let forest := forestOf tree
  (flagLast (forest.childrenOf none)).foldl
    (fun drawing root => drawNode tree forest "" root.2 root.1 drawing) {}

/-- The lines of a tree. -/
def textTreeLines (tree : List Declaration) : List String :=
  "📄 Module" :: (drawTree tree).lines.reverse

/-- The text drawing of a tree. -/
def textTree (tree : List Declaration) : Except Overflow String :=
  if tree.isEmpty then .ok emptyTreeText
  else do
    checkParents tree
    return "\n".intercalate (textTreeLines tree)

end SourceOutline.Graph
