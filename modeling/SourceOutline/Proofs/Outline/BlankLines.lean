import SourceOutline.Proofs.Pattern.Ink
import SourceOutline.Proofs.Snapshot.Spans
import SourceOutline.Proofs.Text.CodeLines

/-!
# Blank lines

A blank line names nothing and leaves the reading of a source where it was, inside an import block
too. So sources that differ by blank lines only name the same libraries, functions and declarations,
and a source without a line of code names nothing at all.
-/

namespace SourceOutline.Outline

open Text

/-- What findings name, without what stands around the names. -/
structure Names where
  /-- Libraries as they come. -/
  libraries : List (List Char)
  /-- The names of functions as they come. -/
  functions : List String
  /-- Kinds and names of declarations as they come. -/
  declarations : List (DeclarationKind × String)

/-- The kind and the name of a declaration. -/
def nameOf (declaration : Declaration) : DeclarationKind × String :=
  (declaration.kind, declaration.name)

/-- What findings name. -/
def Findings.names (findings : Findings) : Names :=
  ⟨findings.libraries, findings.functions.map (·.name), findings.tree.map nameOf⟩

/-- Findings of two parts name what each part names. -/
theorem Findings.names_append (first second : Findings) :
    (first.append second).names =
      ⟨first.names.libraries ++ second.names.libraries,
        first.names.functions ++ second.names.functions,
        first.names.declarations ++ second.names.declarations⟩ := by
  simp only [Findings.names, Findings.append, List.map_append]

section Lines

variable {table : Table} {reading : Reading} {line : Line}

/-- What a line names, and the reading behind it, depend on the line and on the reading before it,
and on nothing around the line. -/
theorem stepLine_names (window other : Nat) (above upper : List Line) (index place : Nat)
    (below lower : List Line) :
    (stepLine table window reading above index line below).1.names =
      (stepLine table other reading upper place line lower).1.names ∧
    (stepLine table window reading above index line below).2 =
      (stepLine table other reading upper place line lower).2 := by
  have read : (readLine table window reading above index line below).1.names =
        (readLine table other reading upper place line lower).1.names ∧
      (readLine table window reading above index line below).2 =
        (readLine table other reading upper place line lower).2 := by
    rw [readLine, readLine]
    cases newFunction? table reading.functions line with
    | none => exact ⟨rfl, rfl⟩
    | some found =>
      refine ⟨?_, rfl⟩
      simp only [Findings.names, Option.map_some, Option.toList_some, List.map_append,
        List.map_singleton]
      rfl
  rw [stepLine, stepLine]
  split
  · exact read
  · split
    · split <;> exact ⟨rfl, rfl⟩
    · split
      · exact ⟨rfl, rfl⟩
      · exact read

/-- A line in which no pattern matches says nothing. -/
theorem stepLine_of_silent (silent : ∀ pattern ∈ table.patterns, pattern.search line = none)
    (window : Nat) (above : List Line) (index : Nat) (below : List Line) :
    stepLine table window reading above index line below = ({}, reading) := by
  have found (pattern : Pattern) (listed : pattern ∈ table.patterns) :
      pattern.find? line = none := by rw [Pattern.find?, silent pattern listed]
  have matched (pattern : Pattern) (listed : pattern ∈ table.patterns) :
      pattern.isMatch line = false := by rw [Pattern.isMatch, silent pattern listed]; rfl
  have libraries (patterns : List Pattern) (listed : patterns ⊆ table.patterns) :
      librariesOf patterns line = [] := by
    rw [librariesOf, List.filterMap_eq_nil_iff]
    intro pattern member
    rw [found pattern (listed member), Option.bind_none]
  have declared (patterns : List Pattern) (listed : patterns ⊆ table.patterns) :
      declared? patterns line = none := by
    rw [declared?, List.findSome?_eq_none_iff]
    intro pattern member
    rw [found pattern (listed member)]
  have read : readLine table window reading above index line below = ({}, reading) := by
    rw [readLine, newClass?, newFunction?, declared _ table.classes_subset,
      declared _ table.functions_subset, libraries _ table.imports_subset]
    rfl
  rw [stepLine]
  split
  · exact read
  · next block known =>
    have listed := Table.block_subset known
    split
    · rw [if_neg (by simp [matched block.stop (listed (by simp))]),
        libraries [block.line] fun pattern member => listed (by simp_all)]
    · rw [if_neg (by simp [matched block.start (listed (by simp))]), read]

end Lines

/-- Leaving out lines in which no pattern matches changes nothing about what is named, and windows
do not matter to it. -/
theorem readLines_names_filter {table : Table} {test : Line → Bool}
    (silent : ∀ line, test line = false → ∀ pattern ∈ table.patterns, pattern.search line = none)
    (window other : Nat) (lines : List Line) (reading : Reading) (above upper : List Line)
    (index place : Nat) :
    (readLines table window reading above index lines).names =
      (readLines table other reading upper place (lines.filter test)).names := by
  induction lines generalizing reading above upper index place with
  | nil => rfl
  | cons line below ih =>
    cases kept : test line with
    | true =>
      rw [List.filter_cons_of_pos kept, readLines, readLines]
      obtain ⟨named, behind⟩ := @stepLine_names table reading line window other
        above upper index place below (below.filter test)
      dsimp only
      rw [Findings.names_append, Findings.names_append, named, behind,
        ih _ (line :: above) (line :: upper) (index + 1) (place + 1)]
    | false =>
      rw [List.filter_cons_of_neg (by simp [kept]), readLines,
        stepLine_of_silent (silent line kept)]
      dsimp only
      rw [Findings.names_append, ih reading (line :: above) upper (index + 1) place]
      rfl

/-- No line pattern of a language matches in a blank line. -/
theorem search_eq_none_of_blankText {language : Language} {table : Table}
    (known : Table.forLanguage? language = some table) {line : Line}
    (blank : isBlankText line = true) :
    ∀ pattern ∈ table.patterns, pattern.search line = none := by
  intro pattern listed
  exact Pattern.search_eq_none_of_blank (needsInk_of_mem_patterns known listed)
    (List.all_eq_true.mp blank)

/-- A source names what its lines of code name. -/
theorem readLines_names_inkLines {language : Language} {table : Table}
    (known : Table.forLanguage? language = some table) (window : Nat) (source : List Char) :
    (readLines table window {} [] 0 (splitLines source)).names =
      (readLines table window {} [] 0 (inkLines source)).names :=
  readLines_names_filter
    (fun _ dropped => search_eq_none_of_blankText known (by simpa using dropped)) _ _ _ _ _ _ _ _

/-- A source without a line of code has an empty outline. -/
theorem byLine_of_codeLineCount_eq_zero (language : Language) (window : Nat) {source : List Char}
    (blank : codeLineCount source = 0) : byLine language window source = {} := by
  rw [codeLineCount_eq, List.length_eq_zero_iff] at blank
  cases known : Table.forLanguage? language with
  | none => simp only [byLine, known]
  | some table =>
    have names := readLines_names_inkLines known (max window 1) source
    rw [blank] at names
    simp only [byLine, known, byTable]
    have libraries : (readLines table (max window 1) {} [] 0 (splitLines source)).libraries = [] :=
      congrArg Names.libraries names
    have functions := List.map_eq_nil_iff.mp (congrArg Names.functions names)
    have tree := List.map_eq_nil_iff.mp (congrArg Names.declarations names)
    rw [libraries, functions, tree]
    rfl

/-- For every language and window, sources that differ by blank lines only, wherever these stand,
name the same libraries, the same declarations and the same functions in the same order. So for
every file of a language without a grammar that has no line of code, nothing is found and nothing
is drawn. -/
theorem byLine_ignores_blank_lines (language : Language) (window : Nat) :
    (∀ left right : List Char, inkLines left = inkLines right →
      (byLine language window left).libraries = (byLine language window right).libraries ∧
      (byLine language window left).tree.map nameOf =
        (byLine language window right).tree.map nameOf ∧
      (byLine language window left).functions.map (·.name) =
        (byLine language window right).functions.map (·.name)) ∧
    ∀ (options : Snapshot.Options) (filename : String) (source : List Char),
      codeLineCount source = 0 →
      let snapshot := (Snapshot.take options filename source).1
      snapshot.language.hasSyntaxTree = false →
        snapshot.libraries = [] ∧ snapshot.functions = [] ∧ snapshot.tree = [] ∧
          snapshot.graph = none := by
  constructor
  · intro left right same
    cases known : Table.forLanguage? language with
    | none => simp only [byLine, known, and_self]
    | some table =>
      have names := (readLines_names_inkLines known (max window 1) left).trans
        (same ▸ (readLines_names_inkLines known (max window 1) right).symm)
      simp only [byLine, known, byTable]
      exact ⟨congrArg (LibrarySet.ofList ·.libraries) names, congrArg (·.declarations) names,
        congrArg (·.functions) names⟩
  · intro options filename source blank snapshot byLines
    have outline : (ofLanguage snapshot.language options.window source).1 = {} := by
      rw [ofLanguage_outline, if_neg (by simp [byLines]), byLine_of_codeLineCount_eq_zero _ _ blank]
    have libraries : snapshot.libraries =
      (ofLanguage snapshot.language options.window source).1.libraries := rfl
    have functions : snapshot.functions =
      (ofLanguage snapshot.language options.window source).1.functions := rfl
    have tree : snapshot.tree =
      (ofLanguage snapshot.language options.window source).1.tree := rfl
    have graph : snapshot.graph = (Graph.dot? options.labelLimit snapshot.tree).toOption.join := rfl
    rw [outline] at libraries functions tree
    rw [graph, tree]
    exact ⟨libraries, functions, rfl, rfl⟩

/-- A source without blank lines. -/
def denseSource : List Char :=
  "import (\n\"fmt\"\n)\ntype Shape struct \x7b\nfunc Draw() \x7b".toList

/-- The same lines of code, with blank lines between them and inside the import block. -/
def spacedSource : List Char :=
  ("\nimport (\n\t\u3000\n\"fmt\"\n\n)\n \ntype Shape struct \x7b\n" ++
    "\u2028\nfunc Draw() \x7b\n\r").toList

/-- Blank lines change no name, and blank lines alone name nothing. -/
theorem byLine_spacedSource :
    inkLines spacedSource = inkLines denseSource ∧
    (byLine .go 3 denseSource).libraries = ["fmt"] ∧
    (byLine .go 3 spacedSource).libraries = (byLine .go 3 denseSource).libraries ∧
    (byLine .go 3 denseSource).tree.map nameOf = [(.cls, "Shape"), (.function, "Draw")] ∧
    (byLine .go 3 spacedSource).tree.map nameOf = (byLine .go 3 denseSource).tree.map nameOf ∧
    (byLine .go 3 spacedSource).functions.map (·.name) =
      (byLine .go 3 denseSource).functions.map (·.name) ∧
    codeLineCount "\n\u2003\r\n".toList = 0 ∧
    (Snapshot.take {} "a.go" "\n\u2003\r\n".toList).1.tree = [] ∧
    (Snapshot.take {} "a.go" "\n\u2003\r\n".toList).1.graph = none := by
  have same : inkLines spacedSource = inkLines denseSource := by decide +kernel
  have blank : codeLineCount "\n\u2003\r\n".toList = 0 := by decide +kernel
  obtain ⟨libraries, tree, functions⟩ := (byLine_ignores_blank_lines .go 3).1 _ _ same
  obtain ⟨_, _, nothing, noGraph⟩ :=
    (byLine_ignores_blank_lines .go 3).2 {} "a.go" _ blank (by decide +kernel)
  exact ⟨same, by decide +kernel, libraries, by decide +kernel, tree, functions, blank, nothing,
    noGraph⟩

end SourceOutline.Outline
