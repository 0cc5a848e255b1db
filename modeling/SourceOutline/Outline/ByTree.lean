import SourceOutline.Grammar.Tree
import SourceOutline.Library
import SourceOutline.Outline.DocComment

/-!
# Outlines read from a syntax tree

Three walks over one tree, all in source order: the libraries of its imports, a record for
every function, and the declarations with their enclosing names and levels.
-/

namespace SourceOutline.Outline

open Text Grammar

/-- The part of a module name in front of its first point. -/
def topSegment (name : List Char) : List Char := trim (name.takeWhile (· != '.'))

/-- The libraries that an import statement names. -/
def importedLibraries : Import → List (List Char)
  | .modules names => names.map topSegment
  | .members name => [topSegment name]
  | .relative name => (name.map topSegment).toList
  | .future => ["__future__".toList]

mutual

/-- The libraries named anywhere in a tree. -/
def librariesOfTree : Tree → List (List Char)
  | .importing statement _ _ => importedLibraries statement
  | .expression parts => librariesOfTrees parts
  | .group parts => librariesOfTrees parts
  | .define _ _ _ _ body => librariesOfTrees body
  | _ => []

/-- The libraries named anywhere in the trees. -/
def librariesOfTrees : List Tree → List (List Char)
  | [] => []
  | tree :: trees => librariesOfTree tree ++ librariesOfTrees trees

end

/-- Reads a parameter list behind the names read so far: a slash forgets them, and a star
or splat ends the list. -/
def namesAfter (names : List (List Char)) : List Parameter → List (List Char)
  | [] => names
  | parameter :: rest =>
    if parameter.isStop then names
    else if parameter = .slash then namesAfter [] rest
    else namesAfter (names ++ parameter.name?.toList) rest

/-- The names of the parameters behind the last slash and in front of the first splat. -/
def listedNames (parameters : List Parameter) : List String :=
  (namesAfter [] parameters).map String.ofList

/-- The parameters without the receiver in front. -/
def withoutReceiver : List String → List String
  | [] => []
  | name :: names => if name = "self" then names else name :: names

/-- The text of the strings, unless one of them has none. -/
def joinedValue? (parts : List Literal) : Option (List Char) :=
  (parts.mapM Literal.value?).map List.flatten

/-- The text of an expression that is nothing but strings. -/
def stringValue? : Tree → Option (List Char)
  | .string literal => literal.value?
  | .strings parts => joinedValue? parts
  | _ => none

/-- The part is a comment. -/
def isComment : Tree → Bool
  | .comment _ => true
  | _ => false

/-- The text that documents a body: its first statement, when that is a string. -/
def documentation? (body : List Tree) : Option (List Char) :=
  match body.find? (!isComment ·) with
  | some (.expression (first :: _)) => stringValue? first
  | _ => none

/-- The first line of a text without the blanks around it. -/
def headline? (text : List Char) : Option (List Char) :=
  match textLines (trim text) with
  | [] => none
  | line :: _ =>
    let line := trim line
    if line.isEmpty then none else some line

/-- The record of a function that starts at a row. -/
def functionRecord (lines : List Line) (name : List Char) (parameters : List Parameter)
    (row : Nat) (body : List Tree) : FunctionRecord :=
  let last := (codeEndOfList? body).getD row
  let (summary, source) :=
    match (documentation? body).bind headline? with
    | some text => (String.ofList text, SummarySource.docComment)
    | none => (synthesizeSummary (listedNames parameters), .synthesized)
  { name := String.ofList name
    summary := summary
    summarySource := source
    sourceSlice := String.ofList (sliceLines lines row last)
    startLine := row + 1
    endLine := min last (lines.length - 1) + 1 }

mutual

/-- The records of the functions of a tree. -/
def functionsOfTree (lines : List Line) : Tree → List FunctionRecord
  | .expression parts => functionsOfTrees lines parts
  | .group parts => functionsOfTrees lines parts
  | .define kind name parameters row body =>
    (if kind = .function then [functionRecord lines name parameters row body] else []) ++
      functionsOfTrees lines body
  | _ => []

/-- The records of the functions of the trees. -/
def functionsOfTrees (lines : List Line) : List Tree → List FunctionRecord
  | [] => []
  | tree :: trees => functionsOfTree lines tree ++ functionsOfTrees lines trees

end

mutual

/-- The declarations of a tree that stands inside the named one at a level. -/
def declarationsOfTree (parent : String) (level : UInt64) : Tree → List Declaration
  | .expression parts => declarationsOfTrees parent level parts
  | .group parts => declarationsOfTrees parent level parts
  | .define kind name parameters _ body =>
    let parameters :=
      match kind with
      | .cls => []
      | .function => withoutReceiver (listedNames parameters)
    let name := String.ofList name
    ⟨kind, name, parent, level, parameters⟩ :: declarationsOfTrees name (level + 1) body
  | _ => []

/-- The declarations of the trees. -/
def declarationsOfTrees (parent : String) (level : UInt64) : List Tree → List Declaration
  | [] => []
  | tree :: trees => declarationsOfTree parent level tree ++ declarationsOfTrees parent level trees

end

/-- The outline of a source with the given syntax tree. -/
def ofTrees (trees : List Tree) (source : List Char) : Outline :=
  { libraries := LibrarySet.ofList (librariesOfTrees trees)
    functions := functionsOfTrees (splitLines source) trees
    tree := declarationsOfTrees "" 0 trees }

end SourceOutline.Outline
