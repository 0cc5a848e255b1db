import SourceOutline.Grammar.Source
import SourceOutline.Log
import SourceOutline.Outline.ByLine
import SourceOutline.Outline.ByTree

/-!
# Choosing how to outline a source

Python is read by its grammar, every other language by line patterns. A source that the
grammar rejects has an empty outline.
-/

namespace SourceOutline.Outline

/-- The outline by the grammar. -/
def byGrammar (source : List Char) : Outline × Log :=
  match Grammar.parse source with
  | .ok trees => (ofTrees trees source, [])
  | .error row =>
    ({}, Log.debug ("Python source has syntax errors (first at line " ++ Nat.repr (row + 1) ++
      "), skipping extraction"))

/-- The outline by the line patterns of a language. -/
def byPatterns (language : Language) (window : Nat) (source : List Char) : Outline × Log :=
  if (Table.forLanguage? language).isNone then
    ({}, Log.debug ("No heuristic patterns for " ++ language.displayName ++
      ", skipping extraction"))
  else
    let outline := byLine language window source
    (outline, Log.debug ("Heuristic " ++ language.displayName ++ " extraction: " ++
      Nat.repr outline.functions.length ++ " functions, " ++ Nat.repr outline.tree.length ++
      " tree nodes"))

/-- The outline by the way that the language calls for. -/
def ofLanguage (language : Language) (window : Nat) (source : List Char) : Outline × Log :=
  if language.hasSyntaxTree then
    let (outline, log) := byGrammar source
    (outline, Log.debug ("Using precise extractor for " ++ language.displayName) ++ log)
  else
    let (outline, log) := byPatterns language window source
    (outline, Log.debug ("Using heuristic extractor for " ++ language.displayName ++
      " (window " ++ Nat.repr window ++ ")") ++ log)

end SourceOutline.Outline
