import Mathlib.Data.List.Dedup
import Mathlib.Data.List.Sort
import Mathlib.Data.String.Basic
import SourceOutline.Outline.ByLine
import SourceOutline.Proofs.Text.Lines
import SourceOutline.Proofs.Text.Trim

/-!
# Libraries as sets of lines

The libraries of an outline are an ascending list without repetition, so they are known from their
members. Where imports stand in no block, a library is named by one line alone. So the libraries
depend on which lines there are, not on their order or number, and those of two texts one behind the
other are the sorted union of both.
-/

namespace SourceOutline

open Text

/-! ## Sorted sets of names -/

namespace LibrarySet

/-- The code points of a name. -/
def codePoints (name : String) : List Nat := name.toList.map Char.toNat

/-- Names in ascending order of their code points, each once, and none with blanks around it. -/
structure Tidy (libraries : List String) : Prop where
  /-- Code points decide, from the first on. -/
  ascending : libraries.Pairwise fun left right => codePoints left < codePoints right
  /-- No name comes twice. -/
  distinct : libraries.Nodup
  /-- There are no blanks around a name. -/
  trimmed : ∀ name ∈ libraries, trim name.toList = name.toList
  /-- Each name has a character. -/
  filled : ∀ name ∈ libraries, name ≠ ""

/-- The names of both lists in ascending order, each once. -/
def sortedUnion (left right : List String) : List String := (left ++ right).dedup.mergeSort

/-- The order of names is that of their code points. -/
theorem codePoints_lt {left right : String} (less : left < right) :
    codePoints left < codePoints right :=
  List.map_lt (fun _ _ lower => lower) (String.lt_iff_toList_lt.mp less)

/-- Inserting a name adds this name. -/
theorem mem_insertSorted {name other : String} {names : List String} :
    other ∈ insertSorted name names ↔ other = name ∨ other ∈ names := by
  induction names with
  | nil => simp [insertSorted]
  | cons first names ih =>
    rw [insertSorted]
    split
    · exact List.mem_cons
    · split
      · next same => simp [same]
      · rw [List.mem_cons, ih, List.mem_cons, or_left_comm]

/-- A name is put at its place. -/
theorem insertSorted_pairwise (name : String) {names : List String}
    (ascending : names.Pairwise (· < ·)) : (insertSorted name names).Pairwise (· < ·) := by
  induction names with
  | nil => exact List.pairwise_singleton _ name
  | cons first names ih =>
    obtain ⟨above, rest⟩ := List.pairwise_cons.mp ascending
    rw [insertSorted]
    split
    · next less =>
      refine List.pairwise_cons.mpr ⟨?_, ascending⟩
      intro other listed
      rcases List.mem_cons.mp listed with rfl | later
      · exact less
      · exact String.lt_trans less (above other later)
    · next notLess =>
      split
      · exact ascending
      · next different =>
        -- The order is total, so the name stands behind the first one.
        have behind : first < name :=
          Std.lt_of_le_of_ne (String.not_lt.mp notLess) (Ne.symm different)
        refine List.pairwise_cons.mpr ⟨?_, ih rest⟩
        intro other listed
        rcases mem_insertSorted.mp listed with rfl | later
        · exact behind
        · exact above other later

/-- The path stands for the library of this name. -/
def Names (path : List Char) (name : String) : Prop :=
  trim path ≠ [] ∧ String.ofList (trim path) = name

/-- Inserting a path adds the name of the path, if it has one. -/
theorem mem_insert {libraries : LibrarySet} {path : List Char} {name : String} :
    name ∈ libraries.insert path ↔ name ∈ libraries ∨ Names path name := by
  rw [insert, Names]
  by_cases blank : trim path = []
  · simp [blank]
  · rw [if_neg (by simpa using blank), mem_insertSorted, or_comm]
    exact or_congr_right ⟨fun same => ⟨blank, same.symm⟩, fun named => named.2.symm⟩

/-- Inserting keeps names ascending. -/
theorem insert_pairwise {libraries : LibrarySet} (ascending : libraries.Pairwise (· < ·))
    (path : List Char) : (libraries.insert path).Pairwise (· < ·) := by
  rw [insert]
  split
  · exact ascending
  · exact insertSorted_pairwise _ ascending

/-- What a list of paths adds to a set. -/
theorem foldl_insert (paths : List (List Char)) {libraries : LibrarySet}
    (ascending : libraries.Pairwise (· < ·)) :
    (paths.foldl insert libraries).Pairwise (· < ·) ∧
      ∀ name, name ∈ paths.foldl insert libraries ↔
        name ∈ libraries ∨ ∃ path ∈ paths, Names path name := by
  induction paths generalizing libraries with
  | nil => exact ⟨ascending, fun name => by simp⟩
  | cons path paths ih =>
    obtain ⟨ordered, members⟩ := ih (insert_pairwise ascending path)
    refine ⟨ordered, fun name => ?_⟩
    rw [List.foldl_cons, members, mem_insert, or_assoc, List.exists_mem_cons_iff]

/-- The names of paths are ascending. -/
theorem ofList_pairwise (paths : List (List Char)) : (ofList paths).Pairwise (· < ·) :=
  (foldl_insert paths List.Pairwise.nil).1

/-- The names listed are those of the paths. -/
theorem mem_ofList {paths : List (List Char)} {name : String} :
    name ∈ ofList paths ↔ ∃ path ∈ paths, Names path name := by
  rw [ofList, (foldl_insert paths List.Pairwise.nil).2]
  simp

/-- A set of libraries is tidy, whatever the paths are. -/
theorem tidy_ofList (paths : List (List Char)) : Tidy (ofList paths) where
  ascending := (ofList_pairwise paths).imp codePoints_lt
  distinct := (ofList_pairwise paths).imp fun less => by
    rintro rfl
    exact String.lt_irrefl _ less
  trimmed name listed := by
    obtain ⟨path, _, _, rfl⟩ := mem_ofList.mp listed
    rw [String.toList_ofList, trim_trim]
  filled name listed := by
    obtain ⟨path, _, filled, rfl⟩ := mem_ofList.mp listed
    rwa [ne_eq, ← String.toList_eq_nil_iff, String.toList_ofList]

/-- The sorted union is sorted, and it is the union. -/
theorem sortedUnion_pairwise (left right : List String) :
    (sortedUnion left right).Pairwise (· < ·) := by
  have sorted : (sortedUnion left right).Pairwise fun first second =>
      decide (first ≤ second) = true :=
    List.pairwise_mergeSort (fun a b c => by simpa using String.le_trans)
      (fun a b => by simpa using String.le_total a b) _
  have distinct : (sortedUnion left right).Nodup :=
    (List.mergeSort_perm _ _).nodup_iff.mpr (List.nodup_dedup _)
  refine (sorted.and distinct).imp fun ⟨below, different⟩ => ?_
  exact Std.lt_of_le_of_ne (of_decide_eq_true below) different

/-- The union holds the names of both lists. -/
theorem mem_sortedUnion {left right : List String} {name : String} :
    name ∈ sortedUnion left right ↔ name ∈ left ∨ name ∈ right := by
  rw [sortedUnion, List.mem_mergeSort, List.mem_dedup, List.mem_append]

end LibrarySet

namespace Outline

open LibrarySet

/-! ## Libraries of lines -/

/-- The line names the library through one of the patterns. -/
def LineNames (patterns : List Pattern) (line : Line) (name : String) : Prop :=
  ∃ path ∈ librariesOf patterns line, Names path name

variable {table : Table}

/-- Without import blocks each line names its libraries. -/
theorem libraries_readLines (noBlock : table.block = none) (window : Nat) (reading : Reading)
    (above : List Line) (index : Nat) (lines : List Line) :
    (readLines table window reading above index lines).libraries =
      lines.flatMap (librariesOf table.imports) := by
  induction lines generalizing reading above index with
  | nil => rfl
  | cons line below ih =>
    have step : stepLine table window reading above index line below =
        readLine table window reading above index line below := by
      rw [stepLine, noBlock]
    rw [readLines, step, List.flatMap_cons, ← ih]
    rfl

/-- The libraries are those that some line names. -/
theorem mem_libraries_byTable (noBlock : table.block = none) (window : Nat) (source : List Char)
    (name : String) :
    name ∈ (byTable table window source).libraries ↔
      ∃ line ∈ splitLines source, LineNames table.imports line name := by
  simp only [byTable, mem_ofList, libraries_readLines noBlock, List.mem_flatMap, LineNames]
  constructor
  · rintro ⟨path, ⟨line, listed, found⟩, named⟩
    exact ⟨line, listed, path, found, named⟩
  · rintro ⟨line, listed, path, found, named⟩
    exact ⟨path, ⟨line, listed, found⟩, named⟩

/-- Only one language has import blocks. -/
theorem block_eq_none_iff (language : Language) :
    (∀ table ∈ Table.forLanguage? language, table.block = none) ↔ language ≠ .go := by
  constructor
  · rintro noBlock rfl
    exact absurd (noBlock Table.go rfl) nofun
  · intro other table known
    cases language with
    | go => contradiction
    | _ => cases known <;> rfl

variable {language : Language} {window : Nat}

/-- In a language without import blocks a library is named by one line. -/
theorem mem_libraries_byLine (plain : language ≠ .go) (source : List Char) (name : String) :
    name ∈ (byLine language window source).libraries ↔
      ∃ line ∈ splitLines source, ∃ table ∈ Table.forLanguage? language,
        LineNames table.imports line name := by
  have noBlock := (block_eq_none_iff language).mpr plain
  rw [byLine]
  cases known : Table.forLanguage? language with
  | none => simp
  | some table => simp [mem_libraries_byTable (noBlock table known)]

/-- The libraries found by line patterns are the set of some list of paths. -/
theorem libraries_byLine_eq_ofList (language : Language) (window : Nat) (source : List Char) :
    ∃ paths, (byLine language window source).libraries = ofList paths := by
  rw [byLine]
  split
  · exact ⟨[], rfl⟩
  · exact ⟨_, rfl⟩

/-- For every language and window, the libraries that line patterns find ascend by code point, none
comes twice, and none is empty or has blanks around it. In every language but one there is no import
block, and there the libraries depend on the set of lines only, and those of two texts with a line
feed between them are the sorted union of both. -/
theorem byLine_libraries_of_line_set (language : Language) (window : Nat) :
    (∀ source, Tidy (byLine language window source).libraries) ∧
    ((∀ table ∈ Table.forLanguage? language, table.block = none) ↔ language ≠ .go) ∧
    (language ≠ .go →
      (∀ left right : List Char, (∀ line, line ∈ splitLines left ↔ line ∈ splitLines right) →
        (byLine language window left).libraries = (byLine language window right).libraries) ∧
      ∀ left right : List Char,
        (byLine language window (left ++ '\n' :: right)).libraries =
          sortedUnion (byLine language window left).libraries
            (byLine language window right).libraries) := by
  have ascending (source : List Char) :
      (byLine language window source).libraries.Pairwise (· < ·) := by
    obtain ⟨paths, same⟩ := libraries_byLine_eq_ofList language window source
    rw [same]
    exact ofList_pairwise paths
  refine ⟨?_, block_eq_none_iff language, fun plain => ⟨?_, ?_⟩⟩
  · intro source
    obtain ⟨paths, same⟩ := libraries_byLine_eq_ofList language window source
    rw [same]
    exact tidy_ofList paths
  · intro left right same
    refine (ascending left).eq_of_mem_iff (ascending right) fun name => ?_
    rw [mem_libraries_byLine plain, mem_libraries_byLine plain]
    exact exists_congr fun line => and_congr_left fun _ => same line
  · intro left right
    refine (ascending _).eq_of_mem_iff (sortedUnion_pairwise _ _) fun name => ?_
    rw [mem_sortedUnion, mem_libraries_byLine plain, mem_libraries_byLine plain,
      mem_libraries_byLine plain, splitLines_append]
    simp only [List.mem_append, or_and_right, exists_or]

/-- Three imports and a call. By code point the last name is behind the one before it; by the units
of a two-byte encoding it would be in front. -/
def importingSource : List Char :=
  "import 'zeta.js'\nrequire(\"../Ａ\")\nx()\nexport * from '😀'".toList

/-- The same lines in another order, some of them several times. -/
def reorderedSource : List Char :=
  ("export * from '😀'\nx()\nimport 'zeta.js'\nx()\nrequire(\"../Ａ\")\n" ++
    "import 'zeta.js'").toList

/-- Order and number of lines do not matter, and two texts name what either names. -/
theorem byLine_importingSource :
    (∀ line, line ∈ splitLines reorderedSource ↔ line ∈ splitLines importingSource) ∧
    (byLine .javaScript 1 importingSource).libraries = ["zeta", "Ａ", "😀"] ∧
    (byLine .javaScript 1 reorderedSource).libraries =
      (byLine .javaScript 1 importingSource).libraries ∧
    (byLine .javaScript 1 (importingSource ++ '\n' :: "import 'a'".toList)).libraries =
      sortedUnion (byLine .javaScript 1 importingSource).libraries
        (byLine .javaScript 1 "import 'a'".toList).libraries := by
  have there : ∀ line ∈ splitLines reorderedSource, line ∈ splitLines importingSource := by
    decide +kernel
  have back : ∀ line ∈ splitLines importingSource, line ∈ splitLines reorderedSource := by
    decide +kernel
  have same : ∀ line, line ∈ splitLines reorderedSource ↔ line ∈ splitLines importingSource :=
    fun line => ⟨there line, back line⟩
  obtain ⟨_, _, ofLines⟩ := byLine_libraries_of_line_set .javaScript 1
  obtain ⟨fromSet, union⟩ := ofLines (by decide)
  exact ⟨same, by decide +kernel, fromSet _ _ same, union _ _⟩

end Outline

end SourceOutline
