import SourceOutline.Declaration
import SourceOutline.Library
import SourceOutline.Outline.Table

/-!
# Outlines read line by line

Each line outside an import block names libraries and declares at most one class and one
function. All declarations stand at the top level, and a name is declared once per kind:
the first line that declares it counts. A function's text is a window of lines that
starts at its declaration.
-/

namespace SourceOutline.Outline

open Text

/-- Names that look like declarations but are control flow. -/
def reservedNames : List String :=
  ["if", "for", "while", "switch", "case", "catch", "foreach", "elseif", "return", "sizeof",
    "else", "elif", "do", "until", "unless", "when", "with", "using", "lock", "synchronized",
    "function", "typeof", "defer", "guard"]

/-- First words of a line that is a statement and declares nothing. -/
def statementWords : List String :=
  ["return", "throw", "new", "else", "yield", "await", "goto", "delete", "echo", "print"]

/-- The name is control flow. -/
def isReserved (name : String) : Bool := reservedNames.contains name

/-- The text in front of a name starts with a statement word. -/
def startsStatement (before : List Char) : Bool :=
  (firstWord? before).any fun word => statementWords.contains (String.ofList word)

/-- The name that the first fitting pattern finds in a line, unless it is reserved or the
line is a statement. -/
def declared? (patterns : List Pattern) (line : Line) : Option Pattern.Found :=
  patterns.findSome? fun pattern =>
    match pattern.find? line with
    | none => none
    | some found =>
      if isReserved (String.ofList found.name) || startsStatement found.before then none
      else some found

/-- The libraries that a line names through any of the patterns. -/
def librariesOf (patterns : List Pattern) (line : Line) : List (List Char) :=
  patterns.filterMap fun pattern => (pattern.find? line).bind fun found =>
    Library.ofPath? found.name

/-- The name stands for the object that a method is called on. -/
def isReceiver (name : String) : Bool := name == "self" || name == "this"

/-- The record of the function found in a line, and its parameter names. `above` holds the
lines above, nearest first, and `below` those below. -/
def describe (table : Table) (window index : Nat) (above : List Line) (line : Line)
    (below : List Line) (found : Pattern.Found) : FunctionRecord × List String :=
  let quotes := table.quotes.toList
  let body := below.take (window - 1)
  let parameters :=
    match parameterText? quotes found.after body with
    | none => []
    | some raw => (parameterNames table.style quotes raw).map String.ofList
  let (summary, source) :=
    match docComment? table.comments above with
    | some text => (String.ofList text, SummarySource.docComment)
    | none => (synthesizeSummary parameters, .synthesized)
  ({ name := String.ofList found.name
     summary := summary
     summarySource := source
     sourceSlice := String.ofList (joinLines (line :: body))
     startLine := index + 1
     endLine := index + 1 + body.length }, parameters)

/-- What the lines say, in order, before libraries are sorted. -/
structure Findings where
  /-- Library names as they come. -/
  libraries : List (List Char) := []
  /-- Functions as they come. -/
  functions : List FunctionRecord := []
  /-- Declarations as they come. -/
  tree : List Declaration := []

/-- Where the reading of a file stands. -/
structure Reading where
  /-- Inside an import block. -/
  inBlock : Bool := false
  /-- Class names declared so far. -/
  classes : List String := []
  /-- Function names declared so far. -/
  functions : List String := []

/-- The class that a line declares first. -/
def newClass? (table : Table) (seen : List String) (line : Line) : Option String :=
  (declared? table.classes line).bind fun found =>
    let name := String.ofList found.name
    if seen.contains name then none else some name

/-- The function that a line declares first. -/
def newFunction? (table : Table) (seen : List String) (line : Line) : Option Pattern.Found :=
  (declared? table.functions line).bind fun found =>
    if seen.contains (String.ofList found.name) then none else some found

/-- The findings of two parts of a file. -/
def Findings.append (first second : Findings) : Findings :=
  ⟨first.libraries ++ second.libraries, first.functions ++ second.functions,
    first.tree ++ second.tree⟩

/-- What a line outside an import block says, and the reading behind it. -/
def readLine (table : Table) (window : Nat) (reading : Reading) (above : List Line)
    (index : Nat) (line : Line) (below : List Line) : Findings × Reading :=
  let newClass := newClass? table reading.classes line
  let newFunction := (newFunction? table reading.functions line).map
    (describe table window index above line below)
  let classNode := newClass.map fun name => Declaration.mk .cls name "" 0 []
  let functionNode := newFunction.map fun (record, parameters) =>
    Declaration.mk .function record.name "" 0 (parameters.filter (!isReceiver ·))
  ({ libraries := librariesOf table.imports line
     functions := (newFunction.map (·.1)).toList
     tree := classNode.toList ++ functionNode.toList },
   { reading with
     classes := newClass.toList ++ reading.classes
     functions := (newFunction.map (·.1.name)).toList ++ reading.functions })

/-- What a line says and the reading behind it. The lines that open and close an import
block say nothing, and those inside name libraries only. -/
def stepLine (table : Table) (window : Nat) (reading : Reading) (above : List Line)
    (index : Nat) (line : Line) (below : List Line) : Findings × Reading :=
  match table.block with
  | none => readLine table window reading above index line below
  | some block =>
    if reading.inBlock then
      if block.stop.isMatch line then ({}, { reading with inBlock := false })
      else ({ libraries := librariesOf [block.line] line }, reading)
    else if block.start.isMatch line then ({}, { reading with inBlock := true })
    else readLine table window reading above index line below

/-- What the lines from `index` on say. -/
def readLines (table : Table) (window : Nat) (reading : Reading) (above : List Line)
    (index : Nat) : List Line → Findings
  | [] => {}
  | line :: below =>
    let (found, reading) := stepLine table window reading above index line below
    found.append (readLines table window reading (line :: above) (index + 1) below)

/-- The outline of a source by the line patterns of a table. A window below one counts
as one. -/
def byTable (table : Table) (window : Nat) (source : List Char) : Outline :=
  let findings := readLines table (max window 1) {} [] 0 (splitLines source)
  { libraries := LibrarySet.ofList findings.libraries
    functions := findings.functions
    tree := findings.tree }

/-- The outline of a source by the line patterns of its language, empty for a language
without patterns. -/
def byLine (language : Language) (window : Nat) (source : List Char) : Outline :=
  match Table.forLanguage? language with
  | none => {}
  | some table => byTable table window source

end SourceOutline.Outline
