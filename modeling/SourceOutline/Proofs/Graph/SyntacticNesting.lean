import SourceOutline.Proofs.Graph.Dot
import SourceOutline.Proofs.Graph.Parent
import SourceOutline.Proofs.Graph.TextTree
import SourceOutline.Proofs.Outline.Scope

/-!
# Both drawings show the nesting of the source

A declaration keeps only its name, its parent's name and its level. For the declarations of a
syntax tree this is enough: the parent that the names resolve to is the innermost definition
around a declaration, however often its name occurs. So the edges of the graph and the
indentation of the text are the nesting of the source.
-/

namespace SourceOutline.Graph

open Grammar Outline

/-- What both drawings show of the definition at a place, whose declaration has the index. -/
structure ShowsNesting (trees : List Tree) (tree : List Declaration) (index : Nat) (site : Site) :
    Prop where
  /-- The parent is the declaration of the innermost definition around the place. -/
  parent : ∀ owner, parent? tree index = some owner ↔ ∃ outer,
    (definitionSites trees)[owner]? = some outer ∧ (enclosingSites trees site).getLast? = some outer
  /-- There is no parent exactly where no definition stands around the place. -/
  root : parent? tree index = none ↔ enclosingSites trees site = []
  /-- The search for the parent succeeds. -/
  searched : findParent tree index = .ok (parent? tree index)
  /-- The edge comes from the module or from the node of the innermost definition around. -/
  edge : ∃ start stop, (edges tree)[index]? = some (start, stop) ∧
    (uniqueIds tree)[index]? = some stop ∧
    (enclosingSites trees site = [] ∧ start = rootId ∨ ∃ (owner : Nat) (outer : Site),
      (definitionSites trees)[owner]? = some outer ∧
        (enclosingSites trees site).getLast? = some outer ∧ (uniqueIds tree)[owner]? = some start)
  /-- The nodes above are the declarations of all definitions around, the innermost first. -/
  ancestors : ((forestOf tree).ancestors index).map ((definitionSites trees)[·]?) =
    (enclosingSites trees site).reverse.map some
  /-- The line is indented by three characters for each definition around the place. -/
  indentation : (indentation (forestOf tree) index).length = 3 * (enclosingSites trees site).length

section Declarations

variable {trees : List Tree} {entry : Placement} {index : Nat}

/-- The declaration of an entry. -/
theorem getElem?_declarations (placed : (entries trees)[index]? = some entry) :
    (declarationsOfTrees "" 0 trees)[index]? = some entry.declaration := by
  rw [← map_declaration_entries, List.getElem?_map, placed, Option.map_some]

/-- The place of an entry. -/
theorem getElem?_definitionSites (placed : (entries trees)[index]? = some entry) :
    (definitionSites trees)[index]? = some entry.site := by
  rw [← map_site_entries, List.getElem?_map, placed, Option.map_some]

/-- Names of definitions are names of declarations. -/
theorem name_ne_empty (named : DefinitionsNamed trees) (listed : entry ∈ entries trees) :
    entry.declaration.name ≠ "" := by
  obtain ⟨name, parameters, row, body, found, same⟩ := declaredAt_of_mem_entries listed
  have filled := named _ _ _ _ _ _ found
  rw [same]
  intro empty
  exact filled (String.ofList_eq_empty_iff.mp empty)

/-- A definition without a name makes a declaration without a name. -/
theorem definitionsNamed_of_declarations
    (named : ∀ declaration ∈ declarationsOfTrees "" 0 trees, declaration.name ≠ "") :
    DefinitionsNamed trees := by
  intro site kind name parameters row body found
  have listed := mem_definitionSites_of_definesAt
    (show definesAt trees site = true by rw [definesAt, found])
  rw [← map_site_entries, List.mem_map] at listed
  obtain ⟨entry, listed, rfl⟩ := listed
  obtain ⟨ownName, _, _, _, own, same⟩ := declaredAt_of_mem_entries listed
  rw [found] at own
  obtain ⟨_, rfl, _⟩ := Tree.define.inj (Option.some.inj own)
  rintro rfl
  refine named entry.declaration ?_ same
  rw [← map_declaration_entries]
  exact List.mem_map_of_mem listed

/-- Entries in front of an index have depths below it. -/
theorem depth_lt_of_mem_take (listed : entry ∈ (entries trees).take index) :
    entry.depth < index := by
  obtain ⟨place, found⟩ := List.getElem?_of_mem listed
  rw [List.getElem?_take] at found
  split at found
  · next before => exact Nat.lt_of_le_of_lt (depth_eq_length_enclosingSites found).2 before
  · contradiction

/-- In front of an index that is a machine word, levels are depths and none is the largest. -/
theorem level_of_mem_take (word : index < UInt64.size)
    (before : entry ∈ (entries trees).take index) :
    entry.declaration.level.toNat = entry.depth ∧ ¬ IsDeepest entry.declaration := by
  have depth := depth_lt_of_mem_take before
  have level : entry.declaration.level.toNat = entry.depth := by
    rw [(level_of_mem_entriesOfTrees [] 0 "" 0 trees entry (List.mem_of_mem_take before)).1,
      UInt64.toNat_ofNat_of_lt' (Nat.lt_trans depth word)]
  have size : UInt64.size = 18446744073709551616 := rfl
  exact ⟨level, by omega⟩

/-- Names resolve to the innermost definition around a declaration. -/
theorem findParent_declarations (named : DefinitionsNamed trees) (word : index < UInt64.size)
    (placed : (entries trees)[index]? = some entry) :
    (findParent (declarationsOfTrees "" 0 trees) index = .ok none ∧
      enclosingSites trees entry.site = []) ∨
    ∃ owner outer, findParent (declarationsOfTrees "" 0 trees) index = .ok (some owner) ∧
      (entries trees)[owner]? = some outer ∧
      enclosingSites trees entry.site = enclosingSites trees outer.site ++ [outer.site] := by
  have node := getElem?_declarations placed
  rcases parentName_depth_cases placed with ⟨none, parent, _⟩ |
    ⟨farther, outer, nearer, cut, around, parent, depth, deeper⟩
  · left
    refine ⟨?_, none⟩
    simp [findParent, node, Declaration.isRoot, parent]
  · right
    obtain ⟨found, before⟩ := getElem?_of_take_eq cut
    refine ⟨farther.length, outer, ?_, found, around⟩
    have outerListed := List.mem_of_getElem? found
    have filled := name_ne_empty named outerListed
    have level : outer.declaration.level + 1 = entry.declaration.level := by
      rw [(level_of_mem_entriesOfTrees [] 0 "" 0 trees outer outerListed).1,
        (level_of_mem_entriesOfTrees [] 0 "" 0 trees entry (List.mem_of_getElem? placed)).1, depth,
        UInt64.ofNat_add]
      rfl
    have declarations : (declarationsOfTrees "" 0 trees).take index =
        farther.map Placement.declaration ++
          outer.declaration :: nearer.map Placement.declaration := by
      rw [← map_declaration_entries, ← List.map_take, cut, List.map_append, List.map_cons]
    have outerBefore : outer ∈ (entries trees).take index := by simp [cut]
    obtain ⟨outerLevel, outerFits⟩ := level_of_mem_take word outerBefore
    have resolved := findParent_eq_of_cut node (by simp [Declaration.isRoot, parent, filled])
      declarations parent.symm level (mt (level_eq_deepestLevel_iff _).mp outerFits) ?_
    · rwa [List.length_map] at resolved
    · -- What stands between is deeper than the outer definition. Its level is a word, but no
      -- depth in front of the index reaches the size of a word.
      intro other listed
      obtain ⟨inner, near, rfl⟩ := List.mem_map.mp listed
      have innerBefore : inner ∈ (entries trees).take index := by simp [cut, near]
      obtain ⟨innerLevel, innerFits⟩ := level_of_mem_take word innerBefore
      refine ⟨mt (level_eq_deepestLevel_iff _).mp innerFits, ?_⟩
      rw [← level]
      intro same
      have levels := congrArg UInt64.toNat ((UInt64.add_left_inj 1).mp same)
      have apart := deeper inner near
      omega

/-- The parent is the one that the search finds. -/
theorem parent?_declarations (named : DefinitionsNamed trees) (word : index < UInt64.size)
    (placed : (entries trees)[index]? = some entry) :
    (parent? (declarationsOfTrees "" 0 trees) index = none ∧
      enclosingSites trees entry.site = []) ∨
    ∃ owner outer, parent? (declarationsOfTrees "" 0 trees) index = some owner ∧
      (entries trees)[owner]? = some outer ∧
      enclosingSites trees entry.site = enclosingSites trees outer.site ++ [outer.site] := by
  rcases findParent_declarations named word placed with ⟨none, around⟩ |
    ⟨owner, outer, found, outerPlaced, around⟩
  · exact Or.inl ⟨parent?_eq_of_findParent none, around⟩
  · exact Or.inr ⟨owner, outer, parent?_eq_of_findParent found, outerPlaced, around⟩

/-- The searches in a list that a machine word can count all succeed. -/
theorem levelsFit_declarations (short : (declarationsOfTrees "" 0 trees).length ≤ UInt64.size) :
    LevelsFit (declarationsOfTrees "" 0 trees) := by
  intro index node placed _ position other raised
  obtain ⟨before, otherPlaced, _⟩ := raised
  have inside := (List.getElem?_eq_some_iff.mp placed).1
  rw [← map_declaration_entries, List.getElem?_map, Option.map_eq_some_iff] at otherPlaced
  obtain ⟨entry, found, rfl⟩ := otherPlaced
  have listed : entry ∈ (entries trees).take index := by
    apply List.mem_of_getElem? (i := position)
    rw [List.getElem?_take, if_pos before, found]
  exact (level_of_mem_take (Nat.lt_of_lt_of_le inside short) listed).2

/-- The nodes above a declaration are those of the definitions around it. -/
theorem ancestors_declarations (named : DefinitionsNamed trees) (word : index < UInt64.size)
    (placed : (entries trees)[index]? = some entry) :
    ((forestOf (declarationsOfTrees "" 0 trees)).ancestors index).map
        ((definitionSites trees)[·]?) = (enclosingSites trees entry.site).reverse.map some := by
  induction index using Nat.strongRecOn generalizing entry with
  | ind index ih =>
    rw [Forest.ancestors_eq, parent?_forestOf]
    rcases parent?_declarations named word placed with ⟨none, around⟩ |
      ⟨owner, outer, found, outerPlaced, around⟩
    · rw [none, around]
      rfl
    · have before := parent?_lt found
      have above := ih owner before (Nat.lt_trans before word) outerPlaced
      rw [found, around, List.reverse_append]
      simp [above, getElem?_definitionSites outerPlaced]

/-- The index of a definition is found from its place. -/
theorem eq_of_getElem?_definitionSites {left right : Nat} {site : Site}
    (leftPlaced : (definitionSites trees)[left]? = some site)
    (rightPlaced : (definitionSites trees)[right]? = some site) : left = right := by
  have distinct : (definitionSites trees).Nodup := by
    apply (definitionSites_pairwise trees).imp
    rintro first second ordered rfl
    exact List.lt_irrefl _ ordered
  have inside := (List.getElem?_eq_some_iff.mp leftPlaced).1
  exact (List.getElem?_inj inside distinct).mp (leftPlaced.trans rightPlaced.symm)

/-- The parent of a declaration is that of the innermost definition around it. -/
theorem parent?_declarations_iff (named : DefinitionsNamed trees) (word : index < UInt64.size)
    (placed : (entries trees)[index]? = some entry) (owner : Nat) :
    parent? (declarationsOfTrees "" 0 trees) index = some owner ↔ ∃ outer,
      (definitionSites trees)[owner]? = some outer ∧
        (enclosingSites trees entry.site).getLast? = some outer := by
  rcases parent?_declarations named word placed with ⟨none, around⟩ |
    ⟨found, outer, resolved, outerPlaced, around⟩
  · simp [none, around]
  · have outerSite := getElem?_definitionSites outerPlaced
    rw [resolved, around, List.getLast?_concat]
    constructor
    · rintro ⟨⟩
      exact ⟨outer.site, outerSite, rfl⟩
    · rintro ⟨site, ownerSite, ⟨⟩⟩
      rw [eq_of_getElem?_definitionSites outerSite ownerSite]

/-- A declaration has no parent exactly where no definition stands around it. -/
theorem parent?_declarations_none_iff (named : DefinitionsNamed trees) (word : index < UInt64.size)
    (placed : (entries trees)[index]? = some entry) :
    parent? (declarationsOfTrees "" 0 trees) index = none ↔
      enclosingSites trees entry.site = [] := by
  rcases parent?_declarations named word placed with ⟨none, around⟩ | ⟨_, _, found, _, around⟩
  · simp [none, around]
  · simp [found, around]

/-- Every declaration of a source is drawn where its definition stands. -/
theorem showsNesting (named : DefinitionsNamed trees) (word : index < UInt64.size)
    (placed : (entries trees)[index]? = some entry) :
    ShowsNesting trees (declarationsOfTrees "" 0 trees) index entry.site where
  parent := parent?_declarations_iff named word placed
  root := parent?_declarations_none_iff named word placed
  searched := by
    rcases findParent_declarations named word placed with ⟨found, _⟩ | ⟨_, _, found, _⟩
    · rw [found, parent?_eq_of_findParent found]
    · rw [found, parent?_eq_of_findParent found]
  edge := by
    obtain ⟨stop, target⟩ :
        ∃ stop, (uniqueIds (declarationsOfTrees "" 0 trees))[index]? = some stop := by
      have inside := (List.getElem?_eq_some_iff.mp (getElem?_declarations placed)).1
      rw [← length_uniqueIds] at inside
      exact ⟨_, List.getElem?_eq_getElem inside⟩
    have edge := getElem?_edges (declarationsOfTrees "" 0 trees) index
    rw [target, Option.map_some] at edge
    refine ⟨_, stop, edge, target, ?_⟩
    rcases parentId_eq (declarationsOfTrees "" 0 trees) index with ⟨none, start⟩ |
      ⟨owner, found, _, start⟩
    · exact Or.inl ⟨(parent?_declarations_none_iff named word placed).mp none, start⟩
    · obtain ⟨outer, outerSite, last⟩ :=
        (parent?_declarations_iff named word placed owner).mp found
      exact Or.inr ⟨owner, outer, outerSite, last, start⟩
  ancestors := ancestors_declarations named word placed
  indentation := by
    have lengths := congrArg List.length (ancestors_declarations named word placed)
    rw [List.length_map, List.length_map, List.length_reverse] at lengths
    rw [length_indentation, lengths]

end Declarations

/-- For every syntax tree whose definitions have names, the declarations are those of its
definitions in source order. Each has as its parent the innermost definition around it and
none where there is none, whatever names are repeated. The graph has its edges and the text
its indentation from these parents, so both show the nesting of the source. Indices are
machine words, as levels are, and a list that words can count is drawn. -/
theorem ofTrees_drawn_as_nested (trees : List Tree) (source : List Char)
    (named : DefinitionsNamed trees) :
    let tree := (ofTrees trees source).tree
    let sites := definitionSites trees
    sites.Pairwise (· < ·) ∧ (∀ site, site ∈ sites ↔ definesAt trees site = true) ∧
    tree.length = sites.length ∧
    (∀ (index : Nat) declaration site, tree[index]? = some declaration →
      sites[index]? = some site → DeclaredAt trees site declaration) ∧
    (∀ (index : UInt64) site, sites[index.toNat]? = some site →
      ShowsNesting trees tree index.toNat site) ∧
    (∀ limit, dotLines limit tree =
      header ++ List.zipWith (declarationStatement limit) tree (uniqueIds tree) ++
        (edges tree).map edgeText ++ ["\x7d"]) ∧
    textTreeLines tree =
      "📄 Module" :: (forestOf tree).listing.map (row tree (forestOf tree)) ∧
    (tree ≠ [] → sites.length < 2147483646 → ∀ limit,
      dot? limit tree = .ok (some ("\n".intercalate (dotLines limit tree)))) ∧
    (tree ≠ [] → sites.length ≤ UInt64.size →
      textTree tree = .ok ("\n".intercalate (textTreeLines tree))) := by
  have size : (declarationsOfTrees "" 0 trees).length = (definitionSites trees).length := by
    simp [← map_declaration_entries, ← map_site_entries]
  refine ⟨definitionSites_pairwise trees, ?_, size, ?_, ?_, fun limit => dotLines_eq limit _,
    textTreeLines_eq _, ?_, ?_⟩
  · intro site
    refine ⟨fun listed => ?_, mem_definitionSites_of_definesAt⟩
    rw [← map_site_entries, List.mem_map] at listed
    obtain ⟨entry, listed, rfl⟩ := listed
    exact definesAt_of_mem_entries listed
  · intro index declaration site node placed
    rw [← map_site_entries, List.getElem?_map, Option.map_eq_some_iff] at placed
    obtain ⟨entry, placed, rfl⟩ := placed
    obtain rfl : entry.declaration = declaration :=
      Option.some.inj ((getElem?_declarations placed).symm.trans node)
    exact declaredAt_of_mem_entries (List.mem_of_getElem? placed)
  · intro index site placed
    rw [← map_site_entries, List.getElem?_map, Option.map_eq_some_iff] at placed
    obtain ⟨entry, placed, rfl⟩ := placed
    exact showsNesting named index.toNat_lt_size placed
  · intro filled short limit
    have word : UInt64.size = 18446744073709551616 := rfl
    have countable : (declarationsOfTrees "" 0 trees).length + 1 < largestNumber := by
      rw [largestNumber]
      omega
    exact dot?_of_fits limit filled (levelsFit_declarations (by omega))
      (numbersFit_of_length countable)
  · intro filled short
    exact textTree_of_fits filled (levelsFit_declarations (size ▸ short))

/-- A class in which everything has its name: a method, a function inside a condition of the
method and, behind the class, a second class with the same method. -/
def shadowedTrees : List Tree :=
  [.group [.define .cls "A".toList [] 0
      [.define .function "A".toList [] 1
        [.group [.token 2, .define .function "A".toList [] 3 [.token 4]]],
      .define .function "B".toList [] 5 [.token 6]]],
    .define .cls "A".toList [] 7 [.define .function "B".toList [] 8 [.token 9]]]

/-- Repeated names resolve to the definitions around them. -/
theorem ofTrees_shadowedTrees : DefinitionsNamed shadowedTrees ∧
    (List.range 6).map (parent? (ofTrees shadowedTrees []).tree) =
      [none, some 0, some 1, some 0, none, some 4] ∧
    ShowsNesting shadowedTrees (ofTrees shadowedTrees []).tree 2 [0, 0, 0, 0, 1] := by
  have named : DefinitionsNamed shadowedTrees := definitionsNamed_of_declarations (by decide)
  obtain ⟨_, _, _, _, shown, _⟩ := ofTrees_drawn_as_nested shadowedTrees [] named
  exact ⟨named, by decide, shown 2 [0, 0, 0, 0, 1] (by decide)⟩

end SourceOutline.Graph
