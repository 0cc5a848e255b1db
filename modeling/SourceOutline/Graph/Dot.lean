import SourceOutline.Graph.Parent

/-!
# Declaration trees for Graphviz

One node statement per declaration, then one edge from its parent, all below a root node
for the module. Node names are made of the kind and the name, and a number is added to a
name that is taken.
-/

namespace SourceOutline.Graph

/-- Parameters shown in a label when nothing else is asked for. -/
def defaultLabelLimit : Nat := 3

/-- The node that stands for the whole file. -/
def rootId : String := "Module"

/-- A character that needs no replacement in a node name. -/
def isIdChar (c : Char) : Bool := c.isAlphanum || c == '_'

/-- The text with every other character replaced by an underscore. -/
def sanitizeId (text : String) : String :=
  String.ofList (text.toList.map fun c => if isIdChar c then c else '_')

/-- The node name that a declaration asks for. -/
def baseId (declaration : Declaration) : String :=
  sanitizeId (declaration.kind.tag ++ "_" ++ declaration.name)

/-- The name with a number behind it. -/
def withNumber (base : String) (number : Nat) : String := base ++ "_" ++ Nat.repr number

/-- The first number from the given one on whose form of the base is free. Among one more
numbers than there are used names one is free, so that many tries are enough. -/
def freeNumber (used : List String) (base : String) : Nat → Nat → Nat
  | 0, number => number
  | tries + 1, number =>
    if used.contains (withNumber base number) then freeNumber used base tries (number + 1)
    else number

/-- The number that the node name of a declaration takes when some names are taken. -/
def number? (used : List String) (declaration : Declaration) : Option Nat :=
  let base := baseId declaration
  if used.contains base then some (freeNumber used base used.length 2) else none

/-- The node name given to a declaration when some names are taken. -/
def assignId (used : List String) (declaration : Declaration) : String :=
  let base := baseId declaration
  ((number? used declaration).map (withNumber base)).getD base

/-- The node names of declarations, in order. -/
def assignIds (used : List String) : List Declaration → List String
  | [] => []
  | declaration :: rest =>
    let id := assignId used declaration
    id :: assignIds (id :: used) rest

/-- The node names of a tree. -/
def uniqueIds (tree : List Declaration) : List String := assignIds [rootId] tree

/-- The largest value of the count of numbers tried behind a name, a number of 31 bits. -/
def largestNumber : Nat := 2147483647

/-- Counts the numbers tried behind each name. The count goes up after every try, the last one
too, so it fails where a name takes the largest number. -/
def checkNumbers (used : List String) : List Declaration → Except Overflow Unit
  | [] => .ok ()
  | declaration :: rest =>
    if (number? used declaration).any (largestNumber ≤ ·) then
      .error (.number (baseId declaration))
    else checkNumbers (assignId used declaration :: used) rest

/-- Backslashes and quotes with a backslash in front. -/
def escapeLabel (label : List Char) : List Char :=
  label.flatMap fun c => if c == '\\' || c == '"' then ['\\', c] else [c]

/-- The name behind that of the parent, if there is one. -/
def qualifiedName (declaration : Declaration) : String :=
  if declaration.isRoot then declaration.name
  else declaration.parentName ++ "." ++ declaration.name

/-- The label of a declaration, with at most `limit` parameters. -/
def label (limit : Nat) (declaration : Declaration) : String :=
  match declaration.kind with
  | .cls => "📦 " ++ declaration.name
  | .function =>
    let shown := ", ".intercalate (declaration.parameterNames.take limit)
    let rest := if limit < declaration.parameterNames.length then "..." else ""
    "⚙️ " ++ qualifiedName declaration ++ "(" ++ shown ++ rest ++ ")"

/-- The fill of a declaration's node. -/
def color : DeclarationKind → String
  | .cls => "#ffe1f5"
  | .function => "#e1ffe1"

/-- The statement of one node. -/
def nodeStatement (id label color : String) : String :=
  "    " ++ id ++ " [label=\"" ++ label ++ "\", fillcolor=\"" ++ color ++
    "\", style=\"rounded,filled\"];"

/-- The statement of a declaration's node. -/
def declarationStatement (limit : Nat) (declaration : Declaration) (id : String) : String :=
  nodeStatement id (String.ofList (escapeLabel (label limit declaration).toList))
    (color declaration.kind)

/-- The name of the node above the declaration at an index. -/
def parentId (tree : List Declaration) (ids : List String) (index : Nat) : String :=
  ((parent? tree index).bind (ids[·]?)).getD rootId

/-- The statement of the edge to the declaration at an index. -/
def edgeStatement (tree : List Declaration) (ids : List String) (id : String) (index : Nat) :
    String :=
  "    " ++ parentId tree ids index ++ " -> " ++ id ++ ";"

/-- The lines in front of the declarations. -/
def header : List String :=
  ["digraph CodeTree \x7b", "    rankdir=TB;", "    node [shape=box, style=rounded];",
    nodeStatement rootId "📄 Module" "#e1f5ff"]

/-- The lines of the graph of a tree. -/
def dotLines (limit : Nat) (tree : List Declaration) : List String :=
  let ids := uniqueIds tree
  header ++ List.zipWith (declarationStatement limit) tree ids ++
    ids.zipIdx.map (fun (id, index) => edgeStatement tree ids id index) ++ ["\x7d"]

/-- The graph of a tree, if the tree has any declaration. -/
def dot? (limit : Nat) (tree : List Declaration) : Except Overflow (Option String) :=
  if tree.isEmpty then .ok none
  else do
    checkNumbers [rootId] tree
    checkParents tree
    return some ("\n".intercalate (dotLines limit tree))

end SourceOutline.Graph
