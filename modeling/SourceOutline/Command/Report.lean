import SourceOutline.Assistant
import SourceOutline.Graph.TextTree
import SourceOutline.Snapshot.Exchange
import SourceOutline.Json.Writer

/-!
# Reports

A snapshot as it is shown to a user. The JSON report is the snapshot itself, with what
went wrong for the assistant beside it.
-/

namespace SourceOutline.Report

/-- A title with a blank line above. -/
def title (text : String) : String := "\n" ++ text ++ "\n"

/-- A title over a rule. -/
def heading (text : String) : String :=
  title text ++ String.ofList (List.replicate 40 '─') ++ "\n"

/-- A labelled value. -/
def field (label value : String) : String := "  " ++ label ++ ": " ++ value ++ "\n"

/-- The libraries on one line. -/
def libraries (snapshot : Snapshot) : String :=
  if snapshot.libraries.isEmpty then "(none)" else ", ".intercalate snapshot.libraries

/-- A number, with blanks in front up to a width. -/
def alignRight (width number : Nat) : List Char :=
  let digits := (Nat.repr number).toList
  List.replicate (width - digits.length) ' ' ++ digits

/-- The lines of a function with their numbers. -/
def numberedSource (record : FunctionRecord) : List Char :=
  let width := (Nat.repr record.endLine).length
  let rows := (Text.textLines record.sourceSlice.toList).zipIdx.map fun (line, index) =>
    alignRight width (record.startLine + index) ++ [' ', '|', ' '] ++ line
  Text.joinLines rows

/-- A block of code, moved to the right. -/
def code (block : List Char) : String :=
  String.join ((Text.textLines block).map fun line => "    " ++ String.ofList line ++ "\n")

/-- A function on one line, and perhaps its source below. -/
def function (showsSource : Bool) (record : FunctionRecord) : String :=
  "  " ++ record.name ++ " (lines " ++ Nat.repr record.startLine ++ "-" ++ Nat.repr record.endLine
    ++ ") " ++ record.summary ++ "\n" ++ (if showsSource then code (numberedSource record) else "")

/-- The drawing of the declarations, whose levels are depths and can be counted. -/
def structureText (snapshot : Snapshot) : String :=
  (Graph.textTree snapshot.tree).toOption.getD ""

/-- The report for reading. -/
def text (file : String) (enhancement : Enhancement) (showsSource : Bool) : String :=
  let snapshot := enhancement.snapshot
  title file
    ++ field "Language" snapshot.language.displayName
    ++ field "Lines of code" (Nat.repr snapshot.linesOfCode)
    ++ field ("Libraries (" ++ Nat.repr snapshot.libraries.length ++ ")") (libraries snapshot)
    ++ heading ("Functions (" ++ Nat.repr snapshot.functions.length ++ ")")
    ++ String.join (snapshot.functions.map (function showsSource))
    ++ heading "Structure" ++ structureText snapshot ++ "\n"
    ++ (if enhancement.failures.isEmpty then "" else heading "AI summary failures")

/-- What went wrong for the assistant, one line a function. -/
def failures (enhancement : Enhancement) : String :=
  String.join (enhancement.failures.map fun failure =>
    "  ✗ " ++ failure.function ++ ": " ++ failure.message ++ "\n")

/-- The graph of the declarations, or a comment. -/
def dot (snapshot : Snapshot) : String :=
  snapshot.graph.getD ("// " ++ Graph.emptyTreeText)

/-- What went wrong for a function, as JSON. -/
def failureJson (failure : SummaryFailure) : Json :=
  .object [("function", .string failure.function), ("message", .string failure.message)]

/-- The report for programs. -/
def json (enhancement : Enhancement) : Json :=
  let failures :=
    if enhancement.failures.isEmpty then []
    else [("ai_failures", Json.array (enhancement.failures.map failureJson))]
  .object (enhancement.snapshot.members ++ failures)

end SourceOutline.Report
