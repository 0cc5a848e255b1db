import SourceOutline.Command.Report
import SourceOutline.Proofs.Graph.SyntacticNesting
import SourceOutline.Proofs.Outline.Offers
import SourceOutline.Proofs.Snapshot.Spans

/-!
# Snapshots are drawn

A drawing fails only at a count that is the largest of its kind. What line patterns find stands
at the top, so no level is raised there. In the outline of a syntax tree levels are depths, and a
depth is smaller than the number of declarations in front. So a snapshot has the graph and the
text of its declarations, unless they are too many to be numbered.
-/

namespace SourceOutline.Graph

open Outline

/-- What line patterns find stands at the top. -/
theorem parentName_of_mem_byLine {language : Language} {window : Nat} {source : List Char}
    {declaration : Declaration} (listed : declaration ∈ (byLine language window source).tree) :
    declaration.parentName = "" := by
  cases known : Table.forLanguage? language with
  | none => simp [byLine, known] at listed
  | some table =>
    have shown := readLines_shows_firstOffers table (max window 1) (Text.splitLines source)
    simp only [byLine, known] at listed
    change declaration ∈ (readLines table (max window 1) {} [] 0 (Text.splitLines source)).tree
      at listed
    rw [shown.tree] at listed
    obtain ⟨offer, _, rfl⟩ := List.mem_map.mp listed
    exact (offer.node_fields table (max window 1) (Text.splitLines source)).2.2.1

/-- The searches for parents in an outline that a machine word can count all succeed. -/
theorem levelsFit_ofLanguage (language : Language) (window : Nat) (source : List Char)
    (short : (ofLanguage language window source).1.tree.length ≤ UInt64.size) :
    LevelsFit (ofLanguage language window source).1.tree := by
  rw [ofLanguage_outline] at short ⊢
  split at short
  · next grammar =>
    rw [if_pos grammar]
    rw [byGrammar] at short ⊢
    split at short
    · exact levelsFit_declarations short
    · intro index node placed
      contradiction
  · next patterns =>
    rw [if_neg patterns]
    intro index node placed below
    exact absurd (parentName_of_mem_byLine (List.mem_of_getElem? placed)) below

/-- For every file and all options, the snapshot has the graph and the text of its declarations,
unless there are about as many of them as the largest number behind a name. -/
theorem take_drawn (options : Snapshot.Options) (filename : String) (source : List Char) :
    let snapshot := (Snapshot.take options filename source).1
    snapshot.tree ≠ [] → snapshot.tree.length < 2147483646 →
      snapshot.graph = some ("\n".intercalate (dotLines options.labelLimit snapshot.tree)) ∧
      Report.structureText snapshot = "\n".intercalate (textTreeLines snapshot.tree) := by
  intro snapshot filled short
  have word : UInt64.size = 18446744073709551616 := rfl
  have levels : LevelsFit snapshot.tree :=
    levelsFit_ofLanguage snapshot.language options.window source (by
      change snapshot.tree.length ≤ _
      omega)
  have numbers : NumbersFit snapshot.tree :=
    numbersFit_of_length (by rw [largestNumber]; omega)
  have graph : snapshot.graph = (dot? options.labelLimit snapshot.tree).toOption.join := rfl
  constructor
  · rw [graph, dot?_of_fits options.labelLimit filled levels numbers]
    rfl
  · rw [Report.structureText, textTree_of_fits filled levels]
    rfl

end SourceOutline.Graph
