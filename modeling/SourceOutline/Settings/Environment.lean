import SourceOutline.Decimal.Reading
import SourceOutline.Text.Blank
import SourceOutline.Toml.Scalar

/-!
# Settings from environment variables

The first underscore behind the common start of the names separates the section from the
key, so keys may have underscores of their own. A value that reads as a number, a truth
value, a list or a table is one; everything else is a text.
-/

namespace SourceOutline.Environment

open Toml (Value)

/-- The start of the names of the variables. -/
def namePrefix : List Char := "CODELENS_".toList

/-- The rest of a name behind the common start, which is read in any case. -/
def afterPrefix? : List Char → List Char → Option (List Char)
  | [], rest => some rest
  | _, [] => none
  | expected :: more, c :: rest =>
    if expected.toLower = c.toLower then afterPrefix? more rest else none

/-- The text with its first underscore made a point. -/
def splitSection : List Char → List Char
  | [] => []
  | c :: rest => if c = '_' then '.' :: rest else c :: splitSection rest

/-- The keys that a variable sets, from the outermost table on. -/
def path? (name : String) : Option (List String) :=
  match afterPrefix? namePrefix (Text.trim name.toList) with
  | none => none
  | some rest =>
    let keys := (Text.trim (splitSection rest)).splitOn '.'
    if keys.any (·.isEmpty) then none
    else some (keys.map fun key => String.ofList (key.map Char.toLower))

/-- Characters that a list or a table is written with. -/
def isSeparator (c : Char) : Bool := c == ',' || c == '{' || c == '}' || c == '[' || c == ']'

/-- Blanks around the parts of a value. -/
def isSpace (c : Char) : Bool :=
  c == ' ' || c == '\t' || c == '\n' || c == '\x0c' || c == '\r'

/-- The text without blanks in front. -/
def dropSpaces (text : List Char) : List Char := text.dropWhile isSpace

/-- A number that fits into a machine word, with or without a sign. -/
def machineInteger? (text : List Char) : Option Int :=
  (Decimal.integer? text).filter fun (value : Int) =>
    if text.head? = some '-' then Int64.minValue.toInt ≤ value else value < UInt64.size

/-- A word as a number if it is one, and as a text otherwise. -/
def wordValue (word : List Char) : Value :=
  let real? := if word.contains '.' then Decimal.ofText? word else none
  match real?, machineInteger? word with
  | some value, _ => .real value
  | none, some value => .integer value
  | none, none => .text (String.ofList word)

/-- What stands in front of the others, and what stands behind it. -/
def afterWord? (word text : List Char) : Option (List Char) :=
  if word.isPrefixOf text then some (text.drop word.length) else none

/-- A key of a table: a string, or a word. -/
def key? : List Char → Option (String × List Char)
  | '"' :: rest =>
    (Toml.basicString? (rest.length + 1) rest).map fun (key, rest) => (.ofList key, rest)
  | text =>
    let key := text.takeWhile fun c => c.isAlphanum || c == '_' || c == '-'
    if key.isEmpty then none else some (.ofList key, text.drop key.length)

/-- The items of a list behind its bracket. -/
def items? (value? : List Char → Option (Value × List Char)) :
    Nat → List Char → Option (List Value × List Char)
  | 0, _ => none
  | fuel + 1, text =>
    match text with
    | ']' :: rest => some ([], rest)
    | text =>
      match value? text with
      | some (value, ',' :: rest) =>
        (items? value? fuel rest).map fun (values, rest) => (value :: values, rest)
      | some (value, ']' :: rest) => some ([value], rest)
      | _ => none

/-- The entries of a table behind its brace. -/
def entries? (value? : List Char → Option (Value × List Char)) :
    Nat → List Char → Option (List (String × Value) × List Char)
  | 0, _ => none
  | fuel + 1, text =>
    match text with
    | '}' :: rest => some ([], rest)
    | text =>
      match key? (dropSpaces text) with
      | none => none
      | some (key, rest) =>
        match dropSpaces rest with
        | '=' :: rest =>
          match value? rest with
          | some (value, ',' :: rest) =>
            (entries? value? fuel rest).map fun (entries, rest) => ((key, value) :: entries, rest)
          | some (value, '}' :: rest) => some ([(key, value)], rest)
          | _ => none
        | _ => none

/-- The table with the given entries. Of two with one key the later one counts. -/
def tableOf (entries : List (String × Value)) : Value :=
  .table (entries.foldl (fun table (key, value) => Value.put key value table) [])

/-- A value with its blanks, and what stands behind it. -/
def value? : Nat → List Char → Option (Value × List Char)
  | 0, _ => none
  | depth + 1, text =>
    let text := dropSpaces text
    let found? : Option (Value × List Char) :=
      match afterWord? "true".toList text, afterWord? "false".toList text, text with
      | some rest, _, _ => some (.truth true, rest)
      | none, some rest, _ => some (.truth false, rest)
      | none, none, '{' :: rest =>
        (entries? (value? depth) (rest.length + 1) rest).map fun (entries, rest) =>
          (tableOf entries, rest)
      | none, none, '[' :: rest =>
        (items? (value? depth) (rest.length + 1) rest).map fun (items, rest) => (.array items, rest)
      | none, none, '"' :: rest =>
        (Toml.basicString? (rest.length + 1) rest).map fun (value, rest) =>
          (.text (.ofList value), rest)
      | none, none, '\'' :: c :: '\'' :: rest => some (.text (.ofList [c]), rest)
      | none, none, '\'' :: _ => none
      | none, none, text =>
        let word := text.takeWhile (!isSeparator ·)
        some (wordValue (Text.trim word), text.drop word.length)
    found?.map fun (value, rest) => (value, dropSpaces rest)

/-- The value of a variable: what its whole text reads as, or else the text itself. -/
def value (text : String) : Value :=
  match value? (text.length + 1) text.toList with
  | some (value, []) => value
  | _ => .text text

/-- A value below a path of keys. -/
def nest : List String → Value → Value
  | [], value => value
  | key :: path, value => .table [(key, nest path value)]

/-- The tables that the variables describe, in their order. -/
def layers (environment : List (String × String)) : List Value :=
  environment.filterMap fun (name, text) => (path? name).map fun path => nest path (value text)

end SourceOutline.Environment
