import SourceOutline.Proofs.Outline.Nesting

/-!
# What declarations keep of the nesting

The walk over a syntax tree hands down the name and level of the enclosing definition. Here
every declaration is kept together with its place and its depth as a number without bound.
The invariant of the walk is a scope: what stands at a place next has its parent's name and
its depth from the nearest declaration in front whose place begins its own, and all
declarations behind that one stand deeper than it. Each step of the walk keeps it.
-/

namespace SourceOutline.Outline

open Grammar

/-- A declaration with its place and the number of definitions around it. -/
structure Placement where
  /-- The place of the definition. -/
  site : Site
  /-- How many definitions enclose it. -/
  depth : Nat
  /-- The declaration made for it. -/
  declaration : Declaration

mutual

/-- The declarations of a tree that stands at a place, inside the named definition. -/
def entriesOfTree (site : Site) (parent : String) (depth : Nat) : Tree → List Placement
  | .expression parts => entriesOfTrees site 0 parent depth parts
  | .group parts => entriesOfTrees site 0 parent depth parts
  | .define kind name parameters _ body =>
    let parameters :=
      match kind with
      | .cls => []
      | .function => withoutReceiver (listedNames parameters)
    let name := String.ofList name
    ⟨site, depth, ⟨kind, name, parent, UInt64.ofNat depth, parameters⟩⟩ ::
      entriesOfTrees site 0 name (depth + 1) body
  | _ => []

/-- The declarations of trees that stand below a place from a position on. -/
def entriesOfTrees (base : Site) (position : Nat) (parent : String) (depth : Nat) :
    List Tree → List Placement
  | [] => []
  | tree :: trees =>
    entriesOfTree (base ++ [position]) parent depth tree ++
      entriesOfTrees base (position + 1) parent depth trees

end

/-- The declarations of a whole source. -/
def entries (trees : List Tree) : List Placement := entriesOfTrees [] 0 "" 0 trees

/-! ## The views of an entry -/

mutual

/-- Places are those of the definitions. -/
theorem map_site_entriesOfTree (site : Site) (parent : String) (depth : Nat) (tree : Tree) :
    (entriesOfTree site parent depth tree).map Placement.site = sitesOfTree site tree := by
  cases tree with
  | define kind name parameters row body =>
    simp only [entriesOfTree, sitesOfTree, List.map_cons, map_site_entriesOfTrees site 0 _ _ body]
  | expression parts => exact map_site_entriesOfTrees site 0 parent depth parts
  | group parts => exact map_site_entriesOfTrees site 0 parent depth parts
  | _ => rfl

/-- Places are those of the definitions, in each of the trees. -/
theorem map_site_entriesOfTrees (base : Site) (position : Nat) (parent : String) (depth : Nat)
    (trees : List Tree) :
    (entriesOfTrees base position parent depth trees).map Placement.site =
      sitesOfTrees base position trees := by
  cases trees with
  | nil => rfl
  | cons tree trees =>
    rw [entriesOfTrees, sitesOfTrees, List.map_append, map_site_entriesOfTree _ _ _ tree,
      map_site_entriesOfTrees base _ _ _ trees]

end

mutual

/-- Declarations are those that the outline lists. -/
theorem map_declaration_entriesOfTree (site : Site) (parent : String) (depth : Nat)
    (tree : Tree) :
    (entriesOfTree site parent depth tree).map Placement.declaration =
      declarationsOfTree parent (UInt64.ofNat depth) tree := by
  cases tree with
  | define kind name parameters row body =>
    simp only [entriesOfTree, declarationsOfTree, List.map_cons,
      map_declaration_entriesOfTrees site 0 _ _ body, UInt64.ofNat_add]
    rfl
  | expression parts => exact map_declaration_entriesOfTrees site 0 parent depth parts
  | group parts => exact map_declaration_entriesOfTrees site 0 parent depth parts
  | _ => rfl

/-- Declarations are those that the outline lists, in each of the trees. -/
theorem map_declaration_entriesOfTrees (base : Site) (position : Nat) (parent : String)
    (depth : Nat) (trees : List Tree) :
    (entriesOfTrees base position parent depth trees).map Placement.declaration =
      declarationsOfTrees parent (UInt64.ofNat depth) trees := by
  cases trees with
  | nil => rfl
  | cons tree trees =>
    rw [entriesOfTrees, declarationsOfTrees, List.map_append,
      map_declaration_entriesOfTree _ _ _ tree, map_declaration_entriesOfTrees base _ _ _ trees]

end

mutual

/-- Declarations have their depth as their level and stand at least as deep as the walk. -/
theorem level_of_mem_entriesOfTree (site : Site) (parent : String) (depth : Nat) (tree : Tree) :
    ∀ entry ∈ entriesOfTree site parent depth tree,
      entry.declaration.level = UInt64.ofNat entry.depth ∧ depth ≤ entry.depth := by
  intro entry listed
  cases tree with
  | define kind name parameters row body =>
    rcases List.mem_cons.mp listed with rfl | inner
    · exact ⟨rfl, Nat.le_refl _⟩
    · obtain ⟨level, deeper⟩ := level_of_mem_entriesOfTrees site 0 _ _ body entry inner
      exact ⟨level, by omega⟩
  | expression parts => exact level_of_mem_entriesOfTrees site 0 parent depth parts entry listed
  | group parts => exact level_of_mem_entriesOfTrees site 0 parent depth parts entry listed
  | _ => contradiction

/-- Declarations have their depth as their level, in each of the trees. -/
theorem level_of_mem_entriesOfTrees (base : Site) (position : Nat) (parent : String)
    (depth : Nat) (trees : List Tree) :
    ∀ entry ∈ entriesOfTrees base position parent depth trees,
      entry.declaration.level = UInt64.ofNat entry.depth ∧ depth ≤ entry.depth := by
  intro entry listed
  cases trees with
  | nil => contradiction
  | cons tree trees =>
    rcases List.mem_append.mp listed with first | later
    · exact level_of_mem_entriesOfTree _ _ _ tree entry first
    · exact level_of_mem_entriesOfTrees base _ _ _ trees entry later

end

/-- The declarations of a whole source. -/
theorem map_declaration_entries (trees : List Tree) :
    (entries trees).map Placement.declaration = declarationsOfTrees "" 0 trees :=
  map_declaration_entriesOfTrees [] 0 "" 0 trees

/-- The places of a whole source. -/
theorem map_site_entries (trees : List Tree) :
    (entries trees).map Placement.site = definitionSites trees :=
  map_site_entriesOfTrees [] 0 "" 0 trees

/-! ## The definition behind a declaration -/

/-- The declaration has the kind and the name of the definition at the place. -/
def DeclaredAt (trees : List Tree) (site : Site) (declaration : Declaration) : Prop :=
  ∃ name parameters row body,
    treeAt? trees site = some (.define declaration.kind name parameters row body) ∧
      declaration.name = String.ofList name

/-- A declaration below a part is a declaration below the tree. -/
theorem DeclaredAt.of_parts {tree : Tree} {trees : List Tree} {position : Nat} {rest : Site}
    {declaration : Declaration} (placed : trees[position]? = some tree)
    (inner : DeclaredAt tree.parts rest declaration) :
    DeclaredAt trees (position :: rest) declaration := by
  obtain ⟨name, parameters, row, body, found, named⟩ := inner
  refine ⟨name, parameters, row, body, ?_, named⟩
  rw [treeAt?_cons trees position (by rintro rfl; contradiction), placed, Option.bind_some, found]

mutual

/-- Every declaration of a tree is made for the tree itself or for a definition in its parts. -/
theorem declaredAt_of_mem_entriesOfTree (site : Site) (parent : String) (depth : Nat)
    (tree : Tree) : ∀ entry ∈ entriesOfTree site parent depth tree,
      ∃ rest, entry.site = site ++ rest ∧ DeclaredAt [tree] (0 :: rest) entry.declaration := by
  intro entry listed
  cases tree with
  | define kind name parameters row body =>
    rcases List.mem_cons.mp listed with rfl | inner
    · exact ⟨[], by simp, name, parameters, row, body, rfl, rfl⟩
    · obtain ⟨offset, rest, place, found⟩ :=
        declaredAt_of_mem_entriesOfTrees site 0 _ _ body entry inner
      rw [Nat.zero_add] at place
      exact ⟨_, place, found.of_parts rfl⟩
  | expression parts =>
    obtain ⟨offset, rest, place, found⟩ :=
      declaredAt_of_mem_entriesOfTrees site 0 _ _ parts entry listed
    rw [Nat.zero_add] at place
    exact ⟨_, place, found.of_parts rfl⟩
  | group parts =>
    obtain ⟨offset, rest, place, found⟩ :=
      declaredAt_of_mem_entriesOfTrees site 0 _ _ parts entry listed
    rw [Nat.zero_add] at place
    exact ⟨_, place, found.of_parts rfl⟩
  | _ => contradiction

/-- Every declaration of trees is made for the definition at its place. -/
theorem declaredAt_of_mem_entriesOfTrees (base : Site) (position : Nat) (parent : String)
    (depth : Nat) (trees : List Tree) :
    ∀ entry ∈ entriesOfTrees base position parent depth trees,
      ∃ offset rest, entry.site = base ++ (position + offset) :: rest ∧
        DeclaredAt trees (offset :: rest) entry.declaration := by
  intro entry listed
  cases trees with
  | nil => contradiction
  | cons tree trees =>
    rcases List.mem_append.mp listed with first | later
    · obtain ⟨rest, place, found⟩ := declaredAt_of_mem_entriesOfTree _ _ _ tree entry first
      refine ⟨0, rest, by simpa using place, ?_⟩
      cases rest <;> exact found
    · obtain ⟨offset, rest, place, name, parameters, row, body, found, named⟩ :=
        declaredAt_of_mem_entriesOfTrees base _ _ _ trees entry later
      refine ⟨offset + 1, rest, ?_, name, parameters, row, body, ?_, named⟩
      · rw [place, Nat.add_assoc, Nat.add_comm 1]
      · rw [treeAt?_succ, found]

end

/-! ## The scope of a place -/

/-- What the walk hands down to a place behind the declarations made so far: nothing where none
of them encloses it, and otherwise the name of the nearest one that does and its depth. -/
inductive Scope (before : List Placement) (site : Site) : String → Nat → Prop where
  /-- No declaration in front encloses the place. -/
  | outside (apart : ∀ other ∈ before, ¬ other.site <+: site) : Scope before site "" 0
  /-- All declarations behind the nearest one around the place are deeper in it. -/
  | inside {farther nearer : List Placement} {outer : Placement}
      (cut : before = farther ++ outer :: nearer) (around : outer.site <+: site)
      (apart : ∀ other ∈ nearer, ¬ other.site <+: site)
      (deeper : ∀ other ∈ nearer, outer.depth < other.depth) :
      Scope before site outer.declaration.name (outer.depth + 1)

namespace Scope

variable {before later : List Placement} {site : Site} {parent : String} {depth : Nat}

/-- Declarations that do not enclose the place and stand no higher leave its scope alone. -/
theorem append (scope : Scope before site parent depth)
    (apart : ∀ other ∈ later, ¬ other.site <+: site)
    (deeper : ∀ other ∈ later, depth ≤ other.depth) :
    Scope (before ++ later) site parent depth := by
  cases scope with
  | outside apartBefore =>
    apply outside
    intro other listed
    rcases List.mem_append.mp listed with early | late
    · exact apartBefore other early
    · exact apart other late
  | @inside farther nearer outer cut around apartNearer deeperNearer =>
    have cutLater : before ++ later = farther ++ outer :: (nearer ++ later) := by
      rw [cut, List.append_assoc, List.cons_append]
    apply inside cutLater around
    · intro other listed
      rcases List.mem_append.mp listed with early | late
      · exact apartNearer other early
      · exact apart other late
    · intro other listed
      rcases List.mem_append.mp listed with early | late
      · exact deeperNearer other early
      · exact deeper other late

/-- A place that no declaration has yet is in the scope of the place above it. -/
theorem descend {position : Nat} (scope : Scope before site parent depth)
    (fresh : ∀ other ∈ before, other.site ≠ site ++ [position]) :
    Scope before (site ++ [position]) parent depth := by
  cases scope with
  | outside apart =>
    apply outside
    intro other listed start
    rcases List.prefix_concat_iff.mp start with same | above
    · exact fresh other listed same
    · exact apart other listed above
  | inside cut around apart deeper =>
    apply inside cut (around.trans (List.prefix_append _ _)) _ deeper
    intro other listed start
    rcases List.prefix_concat_iff.mp start with same | above
    · exact fresh other (by simp [cut, listed]) same
    · exact apart other listed above

/-- Inside a definition its own name and depth are handed down. -/
theorem enter (before : List Placement) (entry : Placement) :
    Scope (before ++ [entry]) entry.site entry.declaration.name (entry.depth + 1) :=
  inside rfl (List.prefix_refl _) (by simp) (by simp)

end Scope

/-- Each of the entries has its parent's name and its depth from the scope of its place. -/
def Walked (before : List Placement) : List Placement → Prop
  | [] => True
  | entry :: later =>
    Scope before entry.site entry.declaration.parentName entry.depth ∧
      Walked (before ++ [entry]) later

/-- Two walks, one behind the other. -/
theorem Walked.append {before first second : List Placement} (start : Walked before first)
    (rest : Walked (before ++ first) second) : Walked before (first ++ second) := by
  induction first generalizing before with
  | nil => simpa using rest
  | cons entry first ih =>
    refine ⟨start.1, ih start.2 ?_⟩
    rwa [List.append_assoc, List.singleton_append]

/-- Every entry of a walk has the scope of its place. -/
theorem Walked.scope {before entries : List Placement} {entry : Placement} {index : Nat}
    (walked : Walked before entries) (placed : entries[index]? = some entry) :
    Scope (before ++ entries.take index) entry.site entry.declaration.parentName entry.depth := by
  induction entries generalizing before index with
  | nil => contradiction
  | cons first later ih =>
    cases index with
    | zero =>
      obtain rfl : first = entry := Option.some.inj placed
      simpa using walked.1
    | succ index =>
      have inner := ih walked.2 placed
      rwa [List.append_assoc, List.singleton_append] at inner

/-! ## The walk keeps the scope -/

/-- Entries of a tree stand at its place or below. -/
theorem prefix_of_mem_entriesOfTree {site : Site} {parent : String} {depth : Nat} {tree : Tree}
    {entry : Placement} (listed : entry ∈ entriesOfTree site parent depth tree) :
    site <+: entry.site := by
  apply prefix_of_mem_sitesOfTree site tree
  rw [← map_site_entriesOfTree site parent depth tree]
  exact List.mem_map_of_mem listed

mutual

/-- A tree at a place that no declaration has reached is walked in the scope of the place. -/
theorem walked_entriesOfTree (before : List Placement) (site : Site) (parent : String) (depth : Nat)
    (tree : Tree) (scope : Scope before site parent depth)
    (fresh : ∀ other ∈ before, ¬ site <+: other.site) :
    Walked before (entriesOfTree site parent depth tree) := by
  have freshBelow : ∀ other ∈ before, ∀ position, 0 ≤ position →
      ¬ site ++ [position] <+: other.site := fun other listed position _ start =>
    fresh other listed ((List.prefix_append site [position]).trans start)
  cases tree with
  | define kind name parameters row body =>
    refine ⟨scope, walked_entriesOfTrees _ site 0 _ _ body (Scope.enter before _) ?_⟩
    intro other listed position low start
    rcases List.mem_append.mp listed with early | own
    · exact freshBelow other early position low start
    · obtain rfl := List.mem_singleton.mp own
      exact not_concat_prefix site position start
  | expression parts =>
    exact walked_entriesOfTrees before site 0 parent depth parts scope freshBelow
  | group parts =>
    exact walked_entriesOfTrees before site 0 parent depth parts scope freshBelow
  | _ => exact trivial

/-- Trees at positions that no declaration has reached are walked in the scope of the place
above them. -/
theorem walked_entriesOfTrees (before : List Placement) (base : Site) (position : Nat)
    (parent : String) (depth : Nat) (trees : List Tree) (scope : Scope before base parent depth)
    (fresh : ∀ other ∈ before, ∀ later, position ≤ later → ¬ base ++ [later] <+: other.site) :
    Walked before (entriesOfTrees base position parent depth trees) := by
  cases trees with
  | nil => exact trivial
  | cons tree trees =>
    have scopeHere : Scope before (base ++ [position]) parent depth :=
      scope.descend fun other listed same =>
        fresh other listed position (Nat.le_refl _) (same ▸ List.prefix_refl _)
    have first := walked_entriesOfTree before (base ++ [position]) parent depth tree scopeHere
      fun other listed => fresh other listed position (Nat.le_refl _)
    refine first.append (walked_entriesOfTrees _ base (position + 1) parent depth trees ?_ ?_)
    · apply scope.append
      · intro other listed start
        exact not_concat_prefix base position ((prefix_of_mem_entriesOfTree listed).trans start)
      · intro other listed
        exact (level_of_mem_entriesOfTree _ _ _ tree other listed).2
    · intro other listed later high start
      rcases List.mem_append.mp listed with early | emitted
      · exact fresh other early later (by omega) start
      · have same := eq_of_concat_prefix (prefix_of_mem_entriesOfTree emitted) start
        omega

end

/-- Every declaration of a source has the scope of its place. -/
theorem scope_of_getElem? {trees : List Tree} {entry : Placement} {index : Nat}
    (placed : (entries trees)[index]? = some entry) :
    Scope ((entries trees).take index) entry.site entry.declaration.parentName entry.depth := by
  have walked : Walked [] (entries trees) :=
    walked_entriesOfTrees [] [] 0 "" 0 trees (.outside (by simp)) (by simp)
  exact walked.scope placed

/-! ## The innermost definition around a declaration -/

section Innermost

variable {trees : List Tree} {entry : Placement} {index : Nat}

/-- Every declaration is made for the definition at its place. -/
theorem declaredAt_of_mem_entries (listed : entry ∈ entries trees) :
    DeclaredAt trees entry.site entry.declaration := by
  obtain ⟨offset, rest, site, found⟩ :=
    declaredAt_of_mem_entriesOfTrees [] 0 "" 0 trees entry listed
  rw [Nat.zero_add, List.nil_append] at site
  rwa [site]

/-- Declarations are made at definitions only. -/
theorem definesAt_of_mem_entries (listed : entry ∈ entries trees) :
    definesAt trees entry.site = true := by
  obtain ⟨name, parameters, row, body, found, _⟩ := declaredAt_of_mem_entries listed
  rw [definesAt, found]

/-- Declarations stand in the order of their places. -/
theorem entries_pairwise (trees : List Tree) :
    (entries trees).Pairwise fun left right => left.site < right.site := by
  rw [← List.pairwise_map, map_site_entries]
  exact definitionSites_pairwise trees

/-- The definition at a proper beginning of a declaration's place is declared in front of it. -/
theorem exists_mem_take_of_around {outer : Site} (placed : (entries trees)[index]? = some entry)
    (defined : definesAt trees outer = true) (start : outer <+: entry.site)
    (different : outer ≠ entry.site) :
    ∃ other ∈ (entries trees).take index, other.site = outer := by
  have listed := mem_definitionSites_of_definesAt defined
  rw [← map_site_entries, List.mem_map] at listed
  obtain ⟨other, found, rfl⟩ := listed
  refine ⟨other, ?_, rfl⟩
  obtain ⟨inside, same⟩ := List.getElem?_eq_some_iff.mp placed
  have split : entries trees =
      (entries trees).take index ++ entry :: (entries trees).drop (index + 1) := by
    rw [← same, List.getElem_cons_drop, List.take_append_drop]
  have ordered := entries_pairwise trees
  rw [split] at found ordered
  rcases List.mem_append.mp found with early | late
  · exact early
  · exfalso
    rcases List.mem_cons.mp late with rfl | behind
    · exact different rfl
    · have after := List.rel_of_pairwise_cons (List.pairwise_append.mp ordered).2.1 behind
      exact List.not_lt.mpr start.le after

/-- The definition whose declaration is the nearest in front around a place is the innermost. -/
theorem enclosingSites_of_cut {farther nearer : List Placement} {outer : Placement}
    (placed : (entries trees)[index]? = some entry)
    (cut : (entries trees).take index = farther ++ outer :: nearer)
    (around : outer.site <+: entry.site) (apart : ∀ other ∈ nearer, ¬ other.site <+: entry.site) :
    enclosingSites trees entry.site = enclosingSites trees outer.site ++ [outer.site] := by
  have ordered := (entries_pairwise trees).sublist (List.take_sublist index (entries trees))
  rw [cut] at ordered
  have listed : outer ∈ (entries trees).take index := by simp [cut]
  have split : (entries trees).take index ++ [entry] <+: entries trees := by
    obtain ⟨inside, same⟩ := List.getElem?_eq_some_iff.mp placed
    rw [← same, ← List.take_succ_eq_append_getElem inside]
    exact List.take_prefix _ _
  have different : outer.site ≠ entry.site := by
    intro same
    have before := (List.pairwise_append.mp ((entries_pairwise trees).sublist split.sublist)).2.2
      outer listed entry (by simp)
    rw [same] at before
    exact List.lt_irrefl _ before
  apply enclosingSites_eq_concat around different
    (definesAt_of_mem_entries (List.mem_of_mem_take listed))
  intro site below longer start shorter
  rw [Bool.eq_false_iff]
  intro defined
  obtain ⟨other, found, rfl⟩ := exists_mem_take_of_around placed defined start shorter
  rw [cut] at found
  rcases List.mem_append.mp found with early | late
  · -- What stands in front of the outer declaration has an earlier place, so none below it.
    have before := (List.pairwise_append.mp ordered).2.2 other early outer List.mem_cons_self
    exact List.not_lt.mpr below.le before
  · rcases List.mem_cons.mp late with rfl | near
    · exact longer rfl
    · exact apart other near start

/-- A declaration has the innermost definition around it as its parent and stands one level
below it, and all declarations between the two are deeper than that definition. Where there is
no such definition, it has no parent and stands at the top. -/
theorem parentName_depth_cases (placed : (entries trees)[index]? = some entry) :
    (enclosingSites trees entry.site = [] ∧ entry.declaration.parentName = "" ∧
      entry.depth = 0) ∨
    ∃ farther outer nearer, (entries trees).take index = farther ++ outer :: nearer ∧
      enclosingSites trees entry.site = enclosingSites trees outer.site ++ [outer.site] ∧
      entry.declaration.parentName = outer.declaration.name ∧ entry.depth = outer.depth + 1 ∧
      ∀ other ∈ nearer, outer.depth < other.depth := by
  have scope := scope_of_getElem? placed
  revert scope
  generalize entry.declaration.parentName = parent, entry.depth = depth
  intro scope
  cases scope with
  | outside apart =>
    left
    refine ⟨enclosingSites_eq_nil fun site start different => ?_, rfl, rfl⟩
    rw [Bool.eq_false_iff]
    intro defined
    obtain ⟨other, found, rfl⟩ := exists_mem_take_of_around placed defined start different
    exact apart other found start
  | inside cut around apart deeper =>
    right
    exact ⟨_, _, _, cut, enclosingSites_of_cut placed cut around apart, rfl, rfl, deeper⟩

/-- The declaration in front of which a part of the list ends. -/
theorem getElem?_of_take_eq {farther nearer : List Placement} {outer : Placement}
    (cut : (entries trees).take index = farther ++ outer :: nearer) :
    (entries trees)[farther.length]? = some outer ∧ farther.length < index := by
  have found : ((entries trees).take index)[farther.length]? = some outer := by
    rw [cut, List.getElem?_append_right (Nat.le_refl _), Nat.sub_self, List.getElem?_cons_zero]
  rw [List.getElem?_take] at found
  split at found
  · next low => exact ⟨found, low⟩
  · contradiction

/-- The depth of a declaration is the number of definitions around it, and each of them stands
in front of it. -/
theorem depth_eq_length_enclosingSites (placed : (entries trees)[index]? = some entry) :
    entry.depth = (enclosingSites trees entry.site).length ∧ entry.depth ≤ index := by
  induction index using Nat.strongRecOn generalizing entry with
  | ind index ih =>
    rcases parentName_depth_cases placed with ⟨none, _, depth⟩ |
      ⟨farther, outer, nearer, cut, around, _, depth, _⟩
    · simp [none, depth]
    · obtain ⟨found, before⟩ := getElem?_of_take_eq cut
      obtain ⟨outerDepth, low⟩ := ih farther.length before found
      rw [around, List.length_append, List.length_singleton]
      omega

end Innermost

end SourceOutline.Outline
