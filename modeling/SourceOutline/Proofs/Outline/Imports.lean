import SourceOutline.Outline.Strategy
import SourceOutline.Proofs.Outline.Libraries
import SourceOutline.Proofs.Outline.Nesting
import SourceOutline.Proofs.Pattern.Ink

/-!
# Libraries of import statements

An import statement counts wherever it stands in a syntax tree, and it names the same libraries at
every place. So the libraries of an outline depend on which import statements there are, not on
their places, order or number. What a statement names is cut from its text at the first point. That
is the identifier in front of the point if only blanks stand between the two. Anything else that may
stand there, such as the mark of a continued line, becomes a part of the library's name.
-/

namespace SourceOutline.Outline

open Text Grammar LibrarySet

/-! ## Module names -/

/-- The module names of a statement as they are written. The package itself has no name. -/
def moduleNames : Import → List (List Char)
  | .modules names => names
  | .members name => [name]
  | .relative name => name.toList
  | .future => ["__future__".toList]

/-- A module name as it is written: an identifier, then what stands in front of the first point. -/
structure Spelled (written first gap : List Char) : Prop where
  /-- Behind both there is a point, or nothing. -/
  cut : ∃ rest, written = first ++ (gap ++ rest) ∧ ∀ c ∈ rest.head?, c = '.'
  /-- The identifier has a first character. -/
  starts : ∃ c ∈ first.head?, isIdentifierStart c = true
  /-- All of its characters are such that it may have. -/
  parts : ∀ c ∈ first, isIdentifierPart c = true
  /-- It does not go on. -/
  whole : ∀ c ∈ gap.head?, isIdentifierPart c = false
  /-- There is no point before that. -/
  noPoint : '.' ∉ gap

/-- The identifier that a module name begins with. -/
def TopLevel (written : List Char) (name : String) : Prop := ∃ gap, Spelled written name.toList gap

/-- The text in front of the first point of a module name, without the blanks around it. -/
def Segment (written : List Char) (name : String) : Prop :=
  name ≠ "" ∧ ∃ front rest, written = front ++ rest ∧ '.' ∉ front ∧ (∀ c ∈ rest.head?, c = '.') ∧
    Trims front name.toList

/-- A library has the name of the segment. -/
theorem names_topSegment_iff (written : List Char) (name : String) :
    Names (topSegment written) name ↔ Segment written name := by
  rw [Names, topSegment, trim_trim, Segment]
  constructor
  · rintro ⟨filled, rfl⟩
    refine ⟨?_, written.takeWhile (· != '.'), written.dropWhile (· != '.'),
      List.takeWhile_append_dropWhile.symm, ?_, ?_, ?_⟩
    · rwa [ne_eq, ← String.toList_eq_nil_iff, String.toList_ofList]
    · exact fun point => absurd (List.mem_takeWhile_imp point) (by decide)
    · intro c head
      simpa using head?_dropWhile c head
    · rw [String.toList_ofList]
      exact trims_trim _
  · rintro ⟨filled, front, rest, rfl, noPoint, stops, trimmed⟩
    have same := (trims_iff _ _).mp trimmed
    rw [takeWhile_ne_append noPoint stops, ← same, String.ofList_toList]
    exact ⟨fun empty => filled (String.toList_eq_nil_iff.mp empty), rfl⟩

section Spelled

variable {written first gap : List Char} (spelled : Spelled written first gap)

include spelled

/-- A module has a first name. -/
theorem Spelled.ne_nil : first ≠ [] := by
  obtain ⟨c, head, _⟩ := spelled.starts
  rintro rfl
  exact absurd head nofun

/-- A module name begins with one identifier. -/
theorem Spelled.takeWhile_eq : written.takeWhile isIdentifierPart = first := by
  obtain ⟨rest, rfl, stops⟩ := spelled.cut
  refine takeWhile_append_left spelled.parts ?_
  intro c head
  cases gap with
  | nil =>
    rw [stops c head]
    decide
  | cons d gap => exact spelled.whole c head

/-- The package of a module is its first name. -/
theorem Spelled.topLevel_iff (name : String) : TopLevel written name ↔ name.toList = first := by
  constructor
  · rintro ⟨_, other⟩
    rw [← other.takeWhile_eq, spelled.takeWhile_eq]
  · rintro rfl
    exact ⟨gap, spelled⟩

/-- No character of the identifier is blank. -/
theorem Spelled.not_isBlank {c : Char} (member : c ∈ first) : isBlank c = false :=
  isBlank_eq_false (by decide +kernel) (spelled.parts c member)

/-- What stands between the identifier and the point stays, up to the blanks at its end. -/
theorem Spelled.trims : Trims (first ++ gap) (first ++ trimEnd gap) where
  cut := by
    obtain ⟨back, cut, blank⟩ := (cutsEnd_dropWhileEnd isBlank gap).cut
    exact ⟨[], back, by rw [List.append_assoc, trimEnd, ← cut, List.nil_append], by simp, blank⟩
  starts c head := by
    rw [List.head?_append_of_ne_nil _ spelled.ne_nil] at head
    exact spelled.not_isBlank (List.mem_of_mem_head? head)
  stops c last := by
    cases kept : trimEnd gap with
    | nil =>
      rw [kept, List.append_nil] at last
      exact spelled.not_isBlank (List.mem_of_mem_getLast? last)
    | cons d rest =>
      rw [List.getLast?_append_of_ne_nil _ (by simp [kept])] at last
      exact (cutsEnd_dropWhileEnd isBlank gap).stops c last

/-- The segment of a module is its first name with what stands behind it up to the point. -/
theorem Spelled.segment_iff (name : String) :
    Segment written name ↔ name.toList = first ++ trimEnd gap := by
  obtain ⟨rest, cut, stops⟩ := spelled.cut
  have noPoint : '.' ∉ first ++ gap := by
    rw [List.mem_append]
    rintro (inFirst | inGap)
    · exact absurd (spelled.parts _ inFirst) (by decide)
    · exact spelled.noPoint inGap
  have segment : topSegment written = first ++ trimEnd gap := by
    rw [topSegment, cut, ← List.append_assoc, takeWhile_ne_append noPoint stops]
    exact ((trims_iff _ _).mp spelled.trims).symm
  have trimmed : trim (first ++ trimEnd gap) = first ++ trimEnd gap := by
    rw [← segment, topSegment, trim_trim]
  rw [← names_topSegment_iff, Names, segment, trimmed]
  constructor
  · rintro ⟨_, rfl⟩
    exact String.toList_ofList
  · intro same
    rw [← same]
    exact ⟨by simp [same, spelled.ne_nil], String.ofList_toList⟩

/-- The segment is the identifier if only blanks stand between it and the point. -/
theorem Spelled.segment_iff_topLevel (blank : isBlankText gap = true) (name : String) :
    Segment written name ↔ TopLevel written name := by
  have nothing : trimEnd gap = [] := by
    have cuts : CutsEnd isBlank gap [] := ⟨⟨gap, rfl, List.all_eq_true.mp blank⟩, by simp⟩
    exact (cutsEnd_iff.mp cuts).symm
  rw [spelled.segment_iff, nothing, List.append_nil, spelled.topLevel_iff]

end Spelled

/-! ## Import statements in a tree -/

/-- The statement stands somewhere in the trees. -/
def ImportedIn (trees : List Tree) (statement : Import) : Prop :=
  ∃ site firstRow lastRow, treeAt? trees site = some (.importing statement firstRow lastRow)

/-- The tree is the statement, or the statement stands somewhere in its parts. -/
def StandsIn (tree : Tree) (statement : Import) : Prop :=
  (∃ firstRow lastRow, tree = .importing statement firstRow lastRow) ∨
    ImportedIn tree.parts statement

/-- One step towards a place. -/
theorem importedIn_iff {trees : List Tree} {statement : Import} :
    ImportedIn trees statement ↔ ∃ tree ∈ trees, StandsIn tree statement := by
  constructor
  · rintro ⟨site, firstRow, lastRow, found⟩
    cases site with
    | nil => exact absurd found nofun
    | cons position rest =>
      by_cases last : rest = []
      · rw [last] at found
        exact ⟨_, List.mem_of_getElem? found, .inl ⟨firstRow, lastRow, rfl⟩⟩
      · rw [treeAt?_cons trees position last] at found
        obtain ⟨tree, here, below⟩ := Option.bind_eq_some_iff.mp found
        exact ⟨tree, List.mem_of_getElem? here, .inr ⟨rest, firstRow, lastRow, below⟩⟩
  · rintro ⟨tree, member, stands⟩
    obtain ⟨position, here⟩ := List.mem_iff_getElem?.mp member
    rcases stands with ⟨firstRow, lastRow, rfl⟩ | ⟨site, firstRow, lastRow, below⟩
    · exact ⟨[position], firstRow, lastRow, here⟩
    · have longer : site ≠ [] := by
        rintro rfl
        exact absurd below nofun
      refine ⟨position :: site, firstRow, lastRow, ?_⟩
      rw [treeAt?_cons trees position longer, here]
      exact below

/-- Nothing is imported in no trees. -/
theorem not_importedIn_nil (statement : Import) : ¬ ImportedIn [] statement := by
  simp [importedIn_iff]

/-- Imports of trees stand in the first tree or in the others. -/
theorem importedIn_cons {tree : Tree} {trees : List Tree} {statement : Import} :
    ImportedIn (tree :: trees) statement ↔
      StandsIn tree statement ∨ ImportedIn trees statement := by
  simp [importedIn_iff]

/-- Imports of two lists of trees stand in the one or in the other. -/
theorem importedIn_append {left right : List Tree} {statement : Import} :
    ImportedIn (left ++ right) statement ↔
      ImportedIn left statement ∨ ImportedIn right statement := by
  simp [importedIn_iff, or_and_right, exists_or]

mutual

/-- The walk over a tree finds the statements that stand in it, and no other. -/
theorem mem_librariesOfTree (tree : Tree) (path : List Char) :
    path ∈ librariesOfTree tree ↔
      ∃ statement, StandsIn tree statement ∧ path ∈ importedLibraries statement := by
  cases tree with
  | importing statement firstRow lastRow =>
    simp [librariesOfTree, StandsIn, Tree.parts, not_importedIn_nil]
  | expression parts =>
    simpa [librariesOfTree, StandsIn, Tree.parts] using mem_librariesOfTrees parts path
  | group parts =>
    simpa [librariesOfTree, StandsIn, Tree.parts] using mem_librariesOfTrees parts path
  | define kind name parameters row body =>
    simpa [librariesOfTree, StandsIn, Tree.parts] using mem_librariesOfTrees body path
  | _ => simp [librariesOfTree, StandsIn, Tree.parts, not_importedIn_nil]

/-- The libraries of trees are those of their imports. -/
theorem mem_librariesOfTrees (trees : List Tree) (path : List Char) :
    path ∈ librariesOfTrees trees ↔
      ∃ statement, ImportedIn trees statement ∧ path ∈ importedLibraries statement := by
  cases trees with
  | nil => simp [librariesOfTrees, not_importedIn_nil]
  | cons tree trees =>
    rw [librariesOfTrees, List.mem_append, mem_librariesOfTree tree path,
      mem_librariesOfTrees trees path]
    simp only [importedIn_cons, or_and_right, exists_or]

end

/-- An import gives the first segments of its modules. -/
theorem importedLibraries_eq_map (statement : Import) :
    importedLibraries statement = (moduleNames statement).map topSegment := by
  cases statement with
  | modules names => rfl
  | members name => rfl
  | relative name => cases name <;> rfl
  | future => decide

/-- A library of the outline is the segment of a module name of some statement. -/
theorem mem_libraries_ofTrees {trees : List Tree} {source : List Char} {name : String} :
    name ∈ (ofTrees trees source).libraries ↔
      ∃ statement, ImportedIn trees statement ∧ ∃ written ∈ moduleNames statement,
        Segment written name := by
  rw [ofTrees, mem_ofList]
  simp only [mem_librariesOfTrees, importedLibraries_eq_map, List.mem_map, ← names_topSegment_iff]
  constructor
  · rintro ⟨_, ⟨statement, inside, written, listed, rfl⟩, named⟩
    exact ⟨statement, inside, written, listed, named⟩
  · rintro ⟨statement, inside, written, listed, named⟩
    exact ⟨_, ⟨statement, inside, written, listed, rfl⟩, named⟩

/-- The libraries of a syntax tree ascend by code point, none comes twice, and none is empty or has
blanks around it. They are the segments of the module names of all import statements in the tree, at
whatever place. A segment is the identifier that the module name begins with, followed by what
stands between it and the first point up to the blanks at its end. So if only blanks stand there,
the libraries are those identifiers. Trees with the same import statements have the same libraries,
and trees side by side have the sorted union of both. -/
theorem ofTrees_libraries_of_imports (source : List Char) :
    (∀ trees, Tidy (ofTrees trees source).libraries) ∧
    (∀ trees name, name ∈ (ofTrees trees source).libraries ↔
      ∃ statement, ImportedIn trees statement ∧ ∃ written ∈ moduleNames statement,
        Segment written name) ∧
    (∀ written first gap, Spelled written first gap → ∀ name : String,
      (TopLevel written name ↔ name.toList = first) ∧
      (Segment written name ↔ name.toList = first ++ trimEnd gap)) ∧
    (∀ trees,
      (∀ statement, ImportedIn trees statement → ∀ written ∈ moduleNames statement,
        ∃ first gap, Spelled written first gap ∧ isBlankText gap = true) →
      ∀ name, name ∈ (ofTrees trees source).libraries ↔
        ∃ statement, ImportedIn trees statement ∧ ∃ written ∈ moduleNames statement,
          TopLevel written name) ∧
    (∀ left right, (∀ statement, ImportedIn left statement ↔ ImportedIn right statement) →
      (ofTrees left source).libraries = (ofTrees right source).libraries) ∧
    ∀ left right, (ofTrees (left ++ right) source).libraries =
      sortedUnion (ofTrees left source).libraries (ofTrees right source).libraries := by
  have ascending (trees : List Tree) : (ofTrees trees source).libraries.Pairwise (· < ·) :=
    ofList_pairwise _
  refine ⟨fun trees => tidy_ofList _, fun trees name => mem_libraries_ofTrees, ?_, ?_, ?_, ?_⟩
  · intro written first gap spelled name
    exact ⟨spelled.topLevel_iff name, spelled.segment_iff name⟩
  · intro trees blanks name
    rw [mem_libraries_ofTrees]
    refine exists_congr fun statement => and_congr_right fun inside => ?_
    refine exists_congr fun written => and_congr_right fun listed => ?_
    obtain ⟨first, gap, spelled, blank⟩ := blanks statement inside written listed
    exact spelled.segment_iff_topLevel blank name
  · intro left right same
    refine (ascending left).eq_of_mem_iff (ascending right) fun name => ?_
    rw [mem_libraries_ofTrees, mem_libraries_ofTrees]
    exact exists_congr fun statement => and_congr_left fun _ => same statement
  · intro left right
    refine (ascending _).eq_of_mem_iff (sortedUnion_pairwise _ _) fun name => ?_
    rw [mem_sortedUnion, mem_libraries_ofTrees, mem_libraries_ofTrees, mem_libraries_ofTrees]
    simp only [importedIn_append, or_and_right, exists_or]

/-- Two modules at the top, and in a class a module of this package, the package and features. -/
def nestedImports : List Tree :=
  [.importing (.modules ["os .path".toList, "re".toList]) 0 0,
    .define .cls "C".toList [] 1
      [.group [.importing (.relative (some "p.q".toList)) 2 2, .importing (.relative none) 3 3],
        .importing .future 4 4]]

/-- The same statements at other places and in another order, one of them twice. -/
def flatImports : List Tree :=
  [.importing .future 0 0, .importing (.relative none) 1 1,
    .expression [.importing (.modules ["os .path".toList, "re".toList]) 2 2],
    .importing .future 3 3, .importing (.relative (some "p.q".toList)) 4 4]

/-- Places, order and number of the statements do not matter, and each module name gives the
identifier it begins with. -/
theorem libraries_nestedImports :
    (∀ statement, ImportedIn flatImports statement ↔ ImportedIn nestedImports statement) ∧
    (∀ statement, ImportedIn nestedImports statement → ∀ written ∈ moduleNames statement,
      ∃ first gap, Spelled written first gap ∧ isBlankText gap = true) ∧
    (ofTrees nestedImports []).libraries = ["__future__", "os", "p", "re"] ∧
    (ofTrees flatImports []).libraries = (ofTrees nestedImports []).libraries ∧
    (∀ name, name ∈ (ofTrees nestedImports []).libraries ↔
      ∃ statement, ImportedIn nestedImports statement ∧ ∃ written ∈ moduleNames statement,
        TopLevel written name) ∧
    Spelled "os .path".toList "os".toList " ".toList ∧ Segment "os .path".toList "os" := by
  have spaced : Spelled "os .path".toList "os".toList " ".toList :=
    ⟨⟨".path".toList, rfl, by simp⟩, ⟨'o', by simp, by decide⟩,
      List.all_eq_true.mp (by decide), by simp [isIdentifierPart], by decide⟩
  have plain : Spelled "re".toList "re".toList [] :=
    ⟨⟨[], rfl, by simp⟩, ⟨'r', by simp, by decide⟩, List.all_eq_true.mp (by decide),
      by simp, by simp⟩
  have pointed : Spelled "p.q".toList "p".toList [] :=
    ⟨⟨".q".toList, rfl, by simp⟩, ⟨'p', by simp, by decide⟩, List.all_eq_true.mp (by decide),
      by simp, by simp⟩
  have features : Spelled "__future__".toList "__future__".toList [] :=
    ⟨⟨[], rfl, by simp⟩, ⟨'_', by simp, by decide⟩, List.all_eq_true.mp (by decide),
      by simp, by simp⟩
  have nested (statement : Import) : ImportedIn nestedImports statement ↔
      statement = .modules ["os .path".toList, "re".toList] ∨
        statement = .relative (some "p.q".toList) ∨ statement = .relative none ∨
        statement = .future := by
    simp [nestedImports, importedIn_cons, StandsIn, Tree.parts, not_importedIn_nil, eq_comm,
      or_assoc]
  have flat (statement : Import) : ImportedIn flatImports statement ↔
      statement = .future ∨ statement = .relative none ∨
        statement = .modules ["os .path".toList, "re".toList] ∨ statement = .future ∨
        statement = .relative (some "p.q".toList) := by
    simp [flatImports, importedIn_cons, StandsIn, Tree.parts, not_importedIn_nil, eq_comm]
  have same (statement : Import) :
      ImportedIn flatImports statement ↔ ImportedIn nestedImports statement := by
    rw [flat, nested]
    tauto
  have blanks : ∀ statement, ImportedIn nestedImports statement →
      ∀ written ∈ moduleNames statement,
        ∃ first gap, Spelled written first gap ∧ isBlankText gap = true := by
    intro statement inside written listed
    rcases (nested statement).mp inside with rfl | rfl | rfl | rfl
    · rcases List.mem_pair.mp listed with rfl | rfl
      · exact ⟨_, _, spaced, rfl⟩
      · exact ⟨_, _, plain, rfl⟩
    · exact ⟨_, _, List.mem_singleton.mp listed ▸ pointed, rfl⟩
    · exact absurd listed List.not_mem_nil
    · exact ⟨_, _, List.mem_singleton.mp listed ▸ features, rfl⟩
  obtain ⟨_, _, ofSpelled, ofBlanks, ofSame, _⟩ := ofTrees_libraries_of_imports []
  exact ⟨same, blanks, by decide +kernel, ofSame _ _ same, ofBlanks _ blanks, spaced,
    (ofSpelled _ _ _ spaced "os").2.mpr rfl⟩

/-- The import statement that a tree is. -/
def statement? : Tree → Option Import
  | .importing statement _ _ => some statement
  | _ => none

/-- A statement found at a site is an import of the trees. -/
theorem importedIn_of_statement? {trees : List Tree} {site : Site} {statement : Import}
    (found : (treeAt? trees site).bind statement? = some statement) :
    ImportedIn trees statement := by
  obtain ⟨tree, here, same⟩ := Option.bind_eq_some_iff.mp found
  cases tree with
  | importing other firstRow lastRow =>
    rw [Option.some.inj same] at here
    exact ⟨site, firstRow, lastRow, here⟩
  | _ => contradiction

/-- An import with a continued line in front of the point. -/
def continuedSource : List Char := "import os\\\n.path".toList

/-- The mark of a continued line stays in the name of the library, so the identifier in front of it
is no library. -/
theorem byGrammar_continuedSource :
    (∃ trees, Grammar.parse continuedSource = .ok trees ∧
      ImportedIn trees (.modules ["os\\\n.path".toList])) ∧
    TopLevel "os\\\n.path".toList "os" ∧
    (byGrammar continuedSource).1.libraries = ["os\\"] := by
  refine ⟨?_, ⟨"\\\n".toList, ?_⟩, by decide +kernel⟩
  · have only : ((Grammar.parse continuedSource).toOption.bind fun trees =>
        (treeAt? trees [0]).bind statement?) = some (.modules ["os\\\n.path".toList]) := by
      decide +kernel
    cases parsed : Grammar.parse continuedSource with
    | ok trees =>
      rw [parsed] at only
      exact ⟨trees, rfl, importedIn_of_statement? only⟩
    | error row =>
      rw [parsed] at only
      contradiction
  · exact ⟨⟨".path".toList, rfl, by simp⟩, ⟨'o', by simp, by decide⟩,
      List.all_eq_true.mp (by decide), by simp [isIdentifierPart], by decide⟩

end SourceOutline.Outline
