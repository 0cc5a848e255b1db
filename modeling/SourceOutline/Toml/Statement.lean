import SourceOutline.Toml.Node
import SourceOutline.Toml.Scalar

/-!
# The lines of a TOML document

A line holds a header, an assignment, or nothing. Values nest only to a bounded depth.
-/

namespace SourceOutline.Toml

/-- What a line says. -/
inductive Statement where
  /-- The table that the lines behind it fill. -/
  | header (path : List String)
  /-- A new table at the end of an array of tables. -/
  | item (path : List String)
  /-- A value at a path below the table in hand. -/
  | assign (path : List String) (value : Value)
  deriving Repr

/-- How deep values nest at most, and how long a path may be at most. -/
def maxDepth : Nat := 79

/-- The text without blanks in front. -/
def dropBlanks (text : List Char) : List Char := text.dropWhile fun c => c == ' ' || c == '\t'

/-- What stands behind an optional comment, unless the comment holds a control. -/
def dropComment? : List Char → Option (List Char)
  | '#' :: rest =>
    let comment := rest.takeWhile fun c => c != '\n' && c != '\r'
    if comment.any isControl then none else some (rest.drop comment.length)
  | text => some text

/-- The next line, behind blanks and an optional comment. -/
def nextLine? (text : List Char) : Option (List Char) :=
  match dropComment? (dropBlanks text) with
  | some [] => some []
  | some ('\n' :: rest) => some rest
  | some ('\r' :: '\n' :: rest) => some rest
  | _ => none

/-- The text without blanks, line ends and comments in front. -/
def dropLayout? : Nat → List Char → Option (List Char)
  | 0, _ => none
  | fuel + 1, text =>
    match dropBlanks text with
    | '\n' :: rest => dropLayout? fuel rest
    | '\r' :: '\n' :: rest => dropLayout? fuel rest
    | '#' :: rest => (dropComment? ('#' :: rest)).bind (dropLayout? fuel)
    | rest => some rest

/-- Characters of a key without quotes. -/
def isKeyChar (c : Char) : Bool := c.isAlphanum || c == '_' || c == '-'

/-- One key. -/
def key? : List Char → Option (String × List Char)
  | '"' :: rest => (basicString? (rest.length + 1) rest).map fun (key, rest) => (.ofList key, rest)
  | '\'' :: rest => (literalString? rest).map fun (key, rest) => (.ofList key, rest)
  | text =>
    let key := text.takeWhile isKeyChar
    if key.isEmpty then none else some (.ofList key, text.drop key.length)

/-- Keys with points between them, and blanks around each of them. -/
def path? : Nat → List Char → Option (List String × List Char)
  | 0, _ => none
  | depth + 1, text =>
    match key? (dropBlanks text) with
    | none => none
    | some (key, rest) =>
      match dropBlanks rest with
      | '.' :: rest => (path? depth rest).map fun (path, rest) => (key :: path, rest)
      | rest => some ([key], rest)

/-- An assignment, its value read by the given reader. -/
def assignment? (value? : List Char → Option (Value × List Char)) (text : List Char) :
    Option ((List String × Value) × List Char) :=
  match path? maxDepth text with
  | some (path, '=' :: rest) =>
    (value? (dropBlanks rest)).map fun (value, rest) => ((path, value), rest)
  | _ => none

/-- The items of an array behind its bracket. A comma may stand behind the last one. -/
def items? (value? : List Char → Option (Value × List Char)) :
    Nat → List Char → Option (List Value × List Char)
  | 0, _ => none
  | fuel + 1, text =>
    match dropLayout? (text.length + 1) text with
    | none => none
    | some (']' :: rest) => some ([], rest)
    | some text =>
      match value? text with
      | none => none
      | some (value, rest) =>
        match dropLayout? (rest.length + 1) rest with
        | some (',' :: rest) =>
          (items? value? fuel rest).map fun (values, rest) => (value :: values, rest)
        | some (']' :: rest) => some ([value], rest)
        | _ => none

/-- The assignments of a table in braces, all on one line. -/
def members? (value? : List Char → Option (Value × List Char)) :
    Nat → List Char → Option (List (List String × Value) × List Char)
  | 0, _ => none
  | fuel + 1, text =>
    match assignment? value? text with
    | none => none
    | some (member, rest) =>
      match dropBlanks rest with
      | ',' :: rest =>
        (members? value? fuel rest).map fun (members, rest) => (member :: members, rest)
      | '}' :: rest => some ([member], rest)
      | _ => none

/-- The entries of a table in braces. -/
def tableOf? (members : List (List String × Value)) : Option Value :=
  let entries? := members.foldlM (fun entries (path, value) => Node.assign? value path entries) []
  entries?.map fun entries => .table (Node.freezeEntries entries)

/-- A value of any kind. -/
def value? : Nat → List Char → Option (Value × List Char)
  | 0, _ => none
  | depth + 1, text =>
    match text with
    | '[' :: rest =>
      (items? (value? depth) (rest.length + 1) rest).map fun (items, rest) => (.array items, rest)
    | '{' :: rest =>
      match dropBlanks rest with
      | '}' :: rest => some (.table [], rest)
      | rest =>
        match members? (value? depth) (rest.length + 1) rest with
        | none => none
        | some (members, rest) => (tableOf? members).map fun table => (table, rest)
    | '"' :: _ | '\'' :: _ => (string? text).map fun (value, rest) => (.text (.ofList value), rest)
    | _ => scalar text

/-- What a line says, and the next line. The line is not empty. -/
def statement? (text : List Char) : Option (Statement × List Char) :=
  let found? : Option (Statement × List Char) :=
    match text with
    | '[' :: '[' :: rest =>
      match path? maxDepth rest with
      | some (path, ']' :: ']' :: rest) => some (.item path, rest)
      | _ => none
    | '[' :: rest =>
      match path? maxDepth rest with
      | some (path, ']' :: rest) => some (.header path, rest)
      | _ => none
    | _ =>
      (assignment? (value? (maxDepth + 1)) text).map fun ((path, value), rest) =>
        (.assign path value, rest)
  match found? with
  | none => none
  | some (statement, rest) => (nextLine? rest).map fun rest => (statement, rest)

/-- All lines of a document. -/
def statements? : Nat → List Char → Option (List Statement)
  | 0, _ => none
  | fuel + 1, text =>
    match dropLayout? (text.length + 1) text with
    | none => none
    | some [] => some []
    | some text =>
      match statement? text with
      | none => none
      | some (statement, rest) => (statements? fuel rest).map (statement :: ·)

end SourceOutline.Toml
