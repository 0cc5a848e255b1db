import SourceOutline.Proofs.Outline.Nesting

/-!
# The functions of a syntax tree

One walk over a syntax tree makes the records of its functions, another the declarations. Here
both are read off one list: the definitions of the tree with their places. So the two walks
list the same functions in the same order, whatever these stand in.
-/

namespace SourceOutline.Outline

open Text Grammar

/-- A class or function as a syntax tree has it. -/
structure Definition where
  /-- Class or function. -/
  kind : DeclarationKind
  /-- The name as written. -/
  name : List Char
  /-- The entries of its parameter list. -/
  parameters : List Parameter
  /-- The row of its first word. -/
  row : Nat
  /-- The statements of its body. -/
  body : List Tree

namespace Definition

/-- The part of the syntax tree that the definition is. -/
def tree (definition : Definition) : Tree :=
  .define definition.kind definition.name definition.parameters definition.row definition.body

/-- A function is defined. -/
def isFunction (definition : Definition) : Bool := definition.kind = .function

/-- The record of a function. -/
def record (lines : List Line) (definition : Definition) : FunctionRecord :=
  functionRecord lines definition.name definition.parameters definition.row definition.body

/-- What a declaration keeps of a definition apart from its place: the kind, the name, and
the parameters of a function. -/
def outward (definition : Definition) : DeclarationKind × String × List String :=
  (definition.kind, String.ofList definition.name,
    match definition.kind with
    | .cls => []
    | .function => withoutReceiver (listedNames definition.parameters))

end Definition

/-- The same of a declaration. -/
def outwardOf (declaration : Declaration) : DeclarationKind × String × List String :=
  (declaration.kind, declaration.name, declaration.parameterNames)

/-- A definition with its place. -/
abbrev Placed := Site × Definition

mutual

/-- The definitions of a tree that stands at a place. -/
def definitionsOfTree (site : Site) : Tree → List Placed
  | .expression parts => definitionsOfTrees site 0 parts
  | .group parts => definitionsOfTrees site 0 parts
  | .define kind name parameters row body =>
    (site, ⟨kind, name, parameters, row, body⟩) :: definitionsOfTrees site 0 body
  | _ => []

/-- The definitions of trees that stand below a place from a position on. -/
def definitionsOfTrees (base : Site) (position : Nat) : List Tree → List Placed
  | [] => []
  | tree :: trees =>
    definitionsOfTree (base ++ [position]) tree ++ definitionsOfTrees base (position + 1) trees

end

/-- The functions of a syntax tree with their places, in source order. -/
def placedFunctions (trees : List Tree) : List Placed :=
  (definitionsOfTrees [] 0 trees).filter (·.2.isFunction)

/-! ## Three views of the definitions -/

mutual

/-- Places are those at which something is defined. -/
theorem map_site_definitionsOfTree (site : Site) (tree : Tree) :
    (definitionsOfTree site tree).map Prod.fst = sitesOfTree site tree := by
  cases tree with
  | define kind name parameters row body =>
    rw [definitionsOfTree, sitesOfTree, List.map_cons, map_site_definitionsOfTrees site 0 body]
  | expression parts => exact map_site_definitionsOfTrees site 0 parts
  | group parts => exact map_site_definitionsOfTrees site 0 parts
  | _ => rfl

/-- Places are those at which something is defined, in each of the trees. -/
theorem map_site_definitionsOfTrees (base : Site) (position : Nat) (trees : List Tree) :
    (definitionsOfTrees base position trees).map Prod.fst = sitesOfTrees base position trees := by
  cases trees with
  | nil => rfl
  | cons tree trees =>
    rw [definitionsOfTrees, sitesOfTrees, List.map_append, map_site_definitionsOfTree _ tree,
      map_site_definitionsOfTrees base _ trees]

end

mutual

/-- Records are those of the functions among the definitions. -/
theorem functionsOfTree_eq (lines : List Line) (site : Site) (tree : Tree) :
    functionsOfTree lines tree =
      ((definitionsOfTree site tree).filter (·.2.isFunction)).map (·.2.record lines) := by
  cases tree with
  | define kind name parameters row body =>
    rw [functionsOfTree, definitionsOfTree, functionsOfTrees_eq lines site 0 body]
    cases kind <;> rfl
  | expression parts => exact functionsOfTrees_eq lines site 0 parts
  | group parts => exact functionsOfTrees_eq lines site 0 parts
  | _ => rfl

/-- Records are those of the functions among the definitions, in each of the trees. -/
theorem functionsOfTrees_eq (lines : List Line) (base : Site) (position : Nat)
    (trees : List Tree) :
    functionsOfTrees lines trees =
      ((definitionsOfTrees base position trees).filter (·.2.isFunction)).map
        (·.2.record lines) := by
  cases trees with
  | nil => rfl
  | cons tree trees =>
    rw [functionsOfTrees, definitionsOfTrees, functionsOfTree_eq lines (base ++ [position]) tree,
      functionsOfTrees_eq lines base (position + 1) trees, List.filter_append, List.map_append]

end

mutual

/-- Declarations are those of the definitions. -/
theorem map_outwardOf_declarationsOfTree (parent : String) (level : UInt64) (site : Site)
    (tree : Tree) :
    (declarationsOfTree parent level tree).map outwardOf =
      (definitionsOfTree site tree).map (·.2.outward) := by
  cases tree with
  | define kind name parameters row body =>
    simp only [declarationsOfTree, definitionsOfTree, List.map_cons,
      map_outwardOf_declarationsOfTrees _ _ site 0 body]
    rfl
  | expression parts => exact map_outwardOf_declarationsOfTrees parent level site 0 parts
  | group parts => exact map_outwardOf_declarationsOfTrees parent level site 0 parts
  | _ => rfl

/-- Declarations are those of the definitions, in each of the trees. -/
theorem map_outwardOf_declarationsOfTrees (parent : String) (level : UInt64) (base : Site)
    (position : Nat) (trees : List Tree) :
    (declarationsOfTrees parent level trees).map outwardOf =
      (definitionsOfTrees base position trees).map (·.2.outward) := by
  cases trees with
  | nil => rfl
  | cons tree trees =>
    rw [declarationsOfTrees, definitionsOfTrees, List.map_append, List.map_append,
      map_outwardOf_declarationsOfTree parent level (base ++ [position]) tree,
      map_outwardOf_declarationsOfTrees parent level base (position + 1) trees]

end

/-! ## The place of a definition -/

/-- A definition in the parts of a tree stands in the tree. -/
theorem treeAt?_of_parts {site : Site} {tree : Tree} {entry : Placed}
    (inner : ∃ offset rest, entry.1 = site ++ (0 + offset) :: rest ∧
      treeAt? tree.parts (offset :: rest) = some entry.2.tree) :
    ∃ rest, entry.1 = site ++ rest ∧ treeAt? [tree] (0 :: rest) = some entry.2.tree := by
  obtain ⟨offset, rest, place, found⟩ := inner
  rw [Nat.zero_add] at place
  exact ⟨_, place, found⟩

mutual

/-- Every definition of a tree is the tree itself or stands in its parts. -/
theorem treeAt?_of_mem_definitionsOfTree (site : Site) (tree : Tree) :
    ∀ entry ∈ definitionsOfTree site tree, ∃ rest, entry.1 = site ++ rest ∧
      treeAt? [tree] (0 :: rest) = some entry.2.tree := by
  intro entry listed
  cases tree with
  | define kind name parameters row body =>
    rcases List.mem_cons.mp listed with rfl | inner
    · exact ⟨[], by simp, rfl⟩
    · exact treeAt?_of_parts (treeAt?_of_mem_definitionsOfTrees site 0 body entry inner)
  | expression parts =>
    exact treeAt?_of_parts (treeAt?_of_mem_definitionsOfTrees site 0 parts entry listed)
  | group parts =>
    exact treeAt?_of_parts (treeAt?_of_mem_definitionsOfTrees site 0 parts entry listed)
  | _ => contradiction

/-- Every definition of trees stands at its place. -/
theorem treeAt?_of_mem_definitionsOfTrees (base : Site) (position : Nat) (trees : List Tree) :
    ∀ entry ∈ definitionsOfTrees base position trees, ∃ offset rest,
      entry.1 = base ++ (position + offset) :: rest ∧
        treeAt? trees (offset :: rest) = some entry.2.tree := by
  intro entry listed
  cases trees with
  | nil => contradiction
  | cons tree trees =>
    rcases List.mem_append.mp listed with first | later
    · obtain ⟨rest, place, found⟩ := treeAt?_of_mem_definitionsOfTree _ tree entry first
      refine ⟨0, rest, by simpa using place, ?_⟩
      cases rest <;> exact found
    · obtain ⟨offset, rest, place, found⟩ :=
        treeAt?_of_mem_definitionsOfTrees base _ trees entry later
      refine ⟨offset + 1, rest, ?_, ?_⟩
      · rw [place, Nat.add_assoc, Nat.add_comm 1]
      · rw [treeAt?_succ, found]

end

/-- The definition that stands at a place is a function. -/
def FunctionAt (trees : List Tree) (site : Site) (definition : Definition) : Prop :=
  treeAt? trees site = some definition.tree ∧ definition.kind = .function

section Functions

variable {trees : List Tree} {site : Site} {definition : Definition}

/-- The functions listed are those that stand in the tree. -/
theorem mem_placedFunctions :
    (site, definition) ∈ placedFunctions trees ↔ FunctionAt trees site definition := by
  have stands (other : Definition) (listed : (site, other) ∈ definitionsOfTrees [] 0 trees) :
      treeAt? trees site = some other.tree := by
    obtain ⟨offset, rest, place, found⟩ := treeAt?_of_mem_definitionsOfTrees [] 0 trees _ listed
    rw [Nat.zero_add, List.nil_append] at place
    rwa [show site = offset :: rest from place]
  rw [placedFunctions, List.mem_filter, Definition.isFunction, decide_eq_true_eq]
  constructor
  · rintro ⟨listed, function⟩
    exact ⟨stands definition listed, function⟩
  · rintro ⟨found, function⟩
    refine ⟨?_, function⟩
    have defined : site ∈ sitesOfTrees [] 0 trees := mem_definitionSites_of_definesAt
      (show definesAt trees site = true by rw [definesAt, found]; rfl)
    rw [← map_site_definitionsOfTrees, List.mem_map] at defined
    obtain ⟨⟨_, other⟩, listed, rfl⟩ := defined
    have same := (stands other listed).symm.trans found
    obtain ⟨_, _, _, _, _⟩ := other
    obtain ⟨_, _, _, _, _⟩ := definition
    cases same
    exact listed

/-- Functions are listed in the order of their places. -/
theorem placedFunctions_pairwise (trees : List Tree) :
    (placedFunctions trees).Pairwise fun left right => left.1 < right.1 := by
  have ordered := definitionSites_pairwise trees
  rw [definitionSites, ← map_site_definitionsOfTrees, List.pairwise_map] at ordered
  exact ordered.sublist List.filter_sublist

/-- The records of a source are those of its functions. -/
theorem functions_ofTrees (trees : List Tree) (source : List Char) :
    (ofTrees trees source).functions =
      (placedFunctions trees).map (·.2.record (splitLines source)) :=
  functionsOfTrees_eq (splitLines source) [] 0 trees

/-- The function nodes of a source are those of its functions. -/
theorem map_outwardOf_functionNodes (trees : List Tree) (source : List Char) :
    ((ofTrees trees source).tree.filter (·.kind = .function)).map outwardOf =
      (placedFunctions trees).map (·.2.outward) := by
  have nodes := map_outwardOf_declarationsOfTrees "" 0 [] 0 trees
  have kept := congrArg (List.filter fun outward => decide (outward.1 = .function)) nodes
  rw [List.filter_map, List.filter_map] at kept
  exact kept

end Functions

/-! ## The two walks -/

/-- The receiver is left out only where it stands first. -/
theorem withoutReceiver_eq (names : List String) :
    withoutReceiver names = if names.head? = some "self" then names.tail else names := by
  cases names with
  | nil => rfl
  | cons name names => simp [withoutReceiver]

/-- A summary that no documentation gives is made from the listed names. -/
theorem summary_of_synthesized {lines : List Line} {definition : Definition}
    (synthesized : (definition.record lines).summarySource = .synthesized) :
    (definition.record lines).summary = synthesizeSummary (listedNames definition.parameters) := by
  rw [Definition.record, functionRecord] at synthesized ⊢
  cases documented : (documentation? definition.body).bind headline? with
  | none => rfl
  | some text => simp [documented] at synthesized

/-- For every syntax tree, the records of its functions and the function nodes among its
declarations are made for the same definitions in the same order: all that stand in the tree,
in whatever parts. At each index they have the same name, and where the summary is made from
names, the node has these names without a receiver in front. -/
theorem ofTrees_walks_agree (trees : List Tree) (source : List Char) :
    let records := (ofTrees trees source).functions
    let nodes := (ofTrees trees source).tree.filter (·.kind = .function)
    let functions := placedFunctions trees
    functions.Pairwise (fun left right => left.1 < right.1) ∧
    (∀ site definition, (site, definition) ∈ functions ↔ FunctionAt trees site definition) ∧
    records.length = functions.length ∧ records.length = nodes.length ∧
    ∀ (index : Nat) record node, records[index]? = some record → nodes[index]? = some node →
      (∃ site definition, functions[index]? = some (site, definition) ∧
        record = definition.record (splitLines source) ∧ outwardOf node = definition.outward) ∧
      record.name = node.name ∧
      (record.summarySource = .synthesized → ∃ names,
        record.summary = synthesizeSummary names ∧
          node.parameterNames = if names.head? = some "self" then names.tail else names) := by
  intro records nodes functions
  have recordViews : records = functions.map (·.2.record (splitLines source)) :=
    functions_ofTrees trees source
  have nodeViews : nodes.map outwardOf = functions.map (·.2.outward) :=
    map_outwardOf_functionNodes trees source
  have recordCount : records.length = functions.length := by rw [recordViews, List.length_map]
  have nodeCount : nodes.length = functions.length := by
    simpa using congrArg List.length nodeViews
  refine ⟨placedFunctions_pairwise trees, fun site definition => mem_placedFunctions, recordCount,
    recordCount.trans nodeCount.symm, ?_⟩
  intro index record node recordPlaced nodePlaced
  rw [recordViews, List.getElem?_map, Option.map_eq_some_iff] at recordPlaced
  obtain ⟨⟨site, definition⟩, placed, rfl⟩ := recordPlaced
  have outward : outwardOf node = definition.outward := by
    have views := congrArg (·[index]?) nodeViews
    simpa [nodePlaced, placed] using views
  have function : definition.kind = .function :=
    (mem_placedFunctions.mp (List.mem_of_getElem? placed)).2
  rw [outwardOf, Definition.outward, function] at outward
  obtain ⟨_, name, parameters⟩ : _ ∧ _ ∧ _ := by simpa using outward
  refine ⟨⟨site, definition, placed, rfl, ?_⟩, name.symm, ?_⟩
  · rw [outwardOf, Definition.outward, function, outward]
  · intro synthesized
    refine ⟨listedNames definition.parameters, summary_of_synthesized synthesized, ?_⟩
    rw [parameters, withoutReceiver_eq]

/-- A class with a decorated method that defines a function inside a condition, and behind the
class a documented function. -/
def walkedTrees : List Tree :=
  [.group [.token 0, .define .cls "A".toList [] 1
      [.group [.group [.token 2], .define .function "run".toList
        [.plain "self".toList, .withDefault "n".toList] 3
        [.group [.token 4, .define .function "run".toList
          [.plain "x".toList, .slash, .plain "y".toList, .typed "self".toList] 5 [.token 6]]]]]],
    .define .function "told".toList [.plain "a".toList] 7
      [.expression [.string ⟨['"'], "Tells.".toList, false, 8, 8⟩]]]

/-- A method, a function in a condition inside it and a documented function, each once. The
receiver of the method is left out, and a name like it in second place is kept. -/
theorem ofTrees_walkedTrees :
    (ofTrees walkedTrees []).functions.map (fun record => (record.name, record.summary)) =
      [("run", "Function with parameters: self, n"), ("run", "Function with parameters: y, self"),
        ("told", "Tells.")] ∧
    ((ofTrees walkedTrees []).tree.filter (·.kind = .function)).map
      (fun node => (node.name, node.parameterNames)) =
      [("run", ["n"]), ("run", ["y", "self"]), ("told", ["a"])] ∧
    ∃ record node, (ofTrees walkedTrees []).functions[1]? = some record ∧
      ((ofTrees walkedTrees []).tree.filter (·.kind = .function))[1]? = some node ∧
      record.summarySource = .synthesized ∧ record.name = node.name ∧
      ∃ names, record.summary = synthesizeSummary names ∧
        node.parameterNames = if names.head? = some "self" then names.tail else names := by
  obtain ⟨_, _, _, _, agree⟩ := ofTrees_walks_agree walkedTrees []
  obtain ⟨record, recordPlaced⟩ :=
    Option.isSome_iff_exists.mp
      (show (ofTrees walkedTrees []).functions[1]?.isSome = true by decide +kernel)
  obtain ⟨node, nodePlaced⟩ :=
    Option.isSome_iff_exists.mp
      (show ((ofTrees walkedTrees []).tree.filter (·.kind = .function))[1]?.isSome = true by
        decide +kernel)
  have source : (ofTrees walkedTrees []).functions[1]?.map (·.summarySource) =
      some .synthesized := by decide +kernel
  rw [recordPlaced, Option.map_some, Option.some_inj] at source
  obtain ⟨_, name, parameters⟩ := agree 1 record node recordPlaced nodePlaced
  exact ⟨by decide +kernel, by decide +kernel, record, node, recordPlaced, nodePlaced, source,
    name, parameters source⟩

end SourceOutline.Outline
