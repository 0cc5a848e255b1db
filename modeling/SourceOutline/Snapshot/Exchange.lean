import SourceOutline.Json.Shape
import SourceOutline.Snapshot.Basic

/-!
# Snapshots in JSON

Records are written as objects with their fields in a fixed order, and read from objects
or from arrays of the fields in that order.
-/

namespace SourceOutline

open Json

/-- A language, by its name. -/
def Language.toJson (language : Language) : Json := string language.displayName

/-- A language by any of its names. -/
def Language.ofJson? (value : Json) : Option Language :=
  value.text?.bind fun name => Language.parse? name.toList

/-- A function record. -/
def FunctionRecord.toJson (record : FunctionRecord) : Json :=
  object
    [("name", string record.name), ("summary", string record.summary),
      ("summary_source", string record.summarySource.tag),
      ("source_slice", string record.sourceSlice), ("start_line", ofNat record.startLine),
      ("end_line", ofNat record.endLine)]

/-- A function record. -/
def FunctionRecord.ofJson? (value : Json) : Option FunctionRecord :=
  match value.record?
      ["name", "summary", "summary_source", "source_slice", "start_line", "end_line"] with
  | some [some name, some summary, some source, some slice, some first, some last] => do
    return {
      name := ← name.text?
      summary := ← summary.text?
      summarySource := ← source.choice?.bind SummarySource.ofTag?
      sourceSlice := ← slice.text?
      startLine := ← first.word?
      endLine := ← last.word? }
  | _ => none

/-- A declaration. -/
def Declaration.toJson (declaration : Declaration) : Json :=
  object
    [("kind", string declaration.kind.tag), ("name", string declaration.name),
      ("parent_name", string declaration.parentName),
      ("nesting_level", ofNat declaration.level.toNat),
      ("parameter_names", ofStrings declaration.parameterNames)]

/-- A declaration. -/
def Declaration.ofJson? (value : Json) : Option Declaration :=
  match value.record? ["kind", "name", "parent_name", "nesting_level", "parameter_names"] with
  | some [some kind, some name, some parent, some level, some parameters] => do
    return {
      kind := ← kind.choice?.bind DeclarationKind.ofTag?
      name := ← name.text?
      parentName := ← parent.text?
      level := UInt64.ofNat (← level.word?)
      parameterNames := ← parameters.listOf? Json.text? }
  | _ => none

namespace Snapshot

/-- The members of a snapshot's object. -/
def members (snapshot : Snapshot) : List (String × Json) :=
  [("language", snapshot.language.toJson), ("lines_of_code", ofNat snapshot.linesOfCode),
    ("libraries", ofStrings snapshot.libraries),
    ("functions", array (snapshot.functions.map FunctionRecord.toJson)),
    ("declaration_tree", array (snapshot.tree.map Declaration.toJson)),
    ("tree_graph", ofOption snapshot.graph)]

/-- A snapshot. -/
def toJson (snapshot : Snapshot) : Json := object snapshot.members

/-- A snapshot. An object may lack the graph. -/
def ofJson? (value : Json) : Option Snapshot :=
  match value.record?
      ["language", "lines_of_code", "libraries", "functions", "declaration_tree",
        "tree_graph"] with
  | some [some language, some lines, some libraries, some functions, some tree, graph] => do
    return {
      language := ← Language.ofJson? language
      linesOfCode := ← lines.word?
      libraries := ← libraries.listOf? Json.text?
      functions := ← functions.listOf? FunctionRecord.ofJson?
      tree := ← tree.listOf? Declaration.ofJson?
      graph := ← (graph.getD null).optionalText? }
  | _ => none

end Snapshot

end SourceOutline
