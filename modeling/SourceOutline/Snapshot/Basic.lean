import SourceOutline.Graph.Dot
import SourceOutline.Language.Signature
import SourceOutline.Outline.Strategy

/-!
# Snapshots

The structure of one file: its language, size, libraries, functions and declarations.
-/

namespace SourceOutline

/-- What is known about one file. -/
structure Snapshot where
  /-- The language that the file was read as. -/
  language : Language
  /-- Lines with a character that is not blank. -/
  linesOfCode : Nat
  /-- Imported libraries, ascending. -/
  libraries : List String
  /-- Functions in source order. -/
  functions : List FunctionRecord
  /-- Declarations in source order. -/
  tree : List Declaration
  /-- The Graphviz text of the declarations, if there are any. -/
  graph : Option String
  deriving DecidableEq, Repr

namespace Snapshot

/-- A file with nothing in it. -/
def empty (language : Language) : Snapshot := ⟨language, 0, [], [], [], none⟩

/-- The first function with a name. -/
def function? (snapshot : Snapshot) (name : String) : Option FunctionRecord :=
  snapshot.functions.find? (·.name == name)

/-- The functions whose summary was built from their parameters. -/
def pending (snapshot : Snapshot) : List FunctionRecord :=
  snapshot.functions.filter FunctionRecord.isSynthesized

/-- The snapshot with a written summary for the function at an index. An index without a
function changes nothing. -/
def withSummary (snapshot : Snapshot) (index : Nat) (summary : String) : Snapshot :=
  { snapshot with
    functions := snapshot.functions.modify index fun record =>
      { record with summary := summary, summarySource := .generated } }

/-- How a file is read. -/
structure Options where
  /-- Lines that a function found by patterns takes at most. -/
  window : Nat := 20
  /-- Parameters shown in a label of the graph. -/
  labelLimit : Nat := Graph.defaultLabelLimit
  /-- The language to read the file as, whatever it looks like. -/
  language : Option Language := none
  deriving DecidableEq, Repr

/-- The snapshot of a file with the given name and text. The levels of an outline are depths,
so the graph lacks only where the declarations outnumber what the drawing can count. -/
def take (options : Options) (filename : String) (source : List Char) : Snapshot × Log :=
  let language := options.language.getD (Language.classify filename.toList source)
  let (outline, log) := Outline.ofLanguage language options.window source
  ({ language := language
     linesOfCode := Text.codeLineCount source
     libraries := outline.libraries
     functions := outline.functions
     tree := outline.tree
     graph := (Graph.dot? options.labelLimit outline.tree).toOption.join },
   Log.debug ("Analyzing " ++ filename ++ " as " ++ language.displayName) ++ log)

end Snapshot

end SourceOutline
