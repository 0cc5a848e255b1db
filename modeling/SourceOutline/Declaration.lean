import SourceOutline.Language.Basic

/-!
# Functions and declarations

What an outline says about a source: each function with its text and a one-line summary,
and each class or function as a node of the declaration tree.
-/

namespace SourceOutline

/-- Where a summary comes from. -/
inductive SummarySource where
  /-- The first line of a documentation comment. -/
  | docComment
  /-- Built from the parameter names. -/
  | synthesized
  /-- Written by the assistant. -/
  | generated
  deriving DecidableEq, Repr

namespace SummarySource

/-- The tag of a summary source. -/
def tag : SummarySource → String
  | docComment => "doc_comment"
  | synthesized => "synthesized"
  | generated => "generated"

/-- The summary source with this tag. -/
def ofTag? (tag : String) : Option SummarySource :=
  [docComment, synthesized, generated].find? (·.tag == tag)

end SummarySource

/-- One function of a source. -/
structure FunctionRecord where
  /-- The declared name. -/
  name : String
  /-- One line that says what the function does. -/
  summary : String
  /-- Where the summary comes from. -/
  summarySource : SummarySource
  /-- The source lines of the function. -/
  sourceSlice : String
  /-- The first line, counted from one. -/
  startLine : Nat
  /-- The last line, counted from one. -/
  endLine : Nat
  deriving DecidableEq, Repr

/-- The summary was built from the parameter names. -/
def FunctionRecord.isSynthesized (record : FunctionRecord) : Bool :=
  record.summarySource == .synthesized

/-- The kinds of declaration. -/
inductive DeclarationKind where
  | cls
  | function
  deriving DecidableEq, Repr

namespace DeclarationKind

/-- The tag of a kind. -/
def tag : DeclarationKind → String
  | cls => "class"
  | function => "function"

/-- The kind with this tag. -/
def ofTag? (tag : String) : Option DeclarationKind := [cls, function].find? (·.tag == tag)

end DeclarationKind

/-- One class or function of the declaration tree. Its level is a machine word, and no level
stands below the largest. -/
structure Declaration where
  /-- Class or function. -/
  kind : DeclarationKind
  /-- The declared name. -/
  name : String
  /-- The name of the enclosing declaration, empty at the top. -/
  parentName : String
  /-- How many declarations enclose this one. -/
  level : UInt64
  /-- Parameters without the receiver. -/
  parameterNames : List String
  deriving DecidableEq, Repr

namespace Declaration

/-- Nothing encloses the declaration. -/
def isRoot (declaration : Declaration) : Bool := declaration.parentName.isEmpty

end Declaration

/-- The summary of a function that has no documentation. -/
def synthesizeSummary (parameters : List String) : String :=
  if parameters.isEmpty then "Function with no parameters"
  else "Function with parameters: " ++ ", ".intercalate parameters

/-- What a reader finds in a source. -/
structure Outline where
  /-- Imported libraries, ascending. -/
  libraries : List String := []
  /-- Functions in source order. -/
  functions : List FunctionRecord := []
  /-- Declarations in source order. -/
  tree : List Declaration := []
  deriving DecidableEq, Repr

/-- Nothing was found. -/
def Outline.isEmpty (outline : Outline) : Bool :=
  outline.libraries.isEmpty && outline.functions.isEmpty && outline.tree.isEmpty

end SourceOutline
