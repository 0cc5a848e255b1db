import SourceOutline.Text.Search

/-!
# Library names

An import path names a library by its last segment, and an outline lists its libraries
in ascending order without repetition.
-/

namespace SourceOutline

namespace Library

open Text

/-- Extensions that a library name is written without. -/
def sourceExtensions : List String :=
  ["h", "hh", "hpp", "hxx", "inl", "c", "cc", "cpp", "cxx", "m", "mm", "js", "mjs", "cjs",
    "jsx", "ts", "mts", "cts", "tsx", "vue", "py", "rb", "php", "sh", "bash", "zsh", "ps1",
    "psm1", "r", "go", "rs", "swift", "kt", "java", "cs", "scala"]

/-- The segments of a path between slashes, backslashes and double colons, without the
empty ones. -/
def segments (path : List Char) : List (List Char) :=
  (((path.splitOn '/').flatMap (List.splitOn '\\')).flatMap (splitOnText [':', ':'])).filter
    fun segment => !segment.isEmpty

/-- The segment without a known extension, unless nothing would stay. -/
def dropExtension (segment : List Char) : List Char :=
  match cutAtLast? '.' segment with
  | some (stem, extension) =>
    if !stem.isEmpty && sourceExtensions.any (eqIgnoreAsciiCase ·.toList extension) then stem
    else segment
  | none => segment

/-- The library that an import path names, if it names one. -/
def ofPath? (path : List Char) : Option (List Char) :=
  match (segments (trim path)).getLast? with
  | none => none
  | some segment =>
    let name := trim (dropExtension segment)
    if name.isEmpty || name == ['.'] || name == ['.', '.'] then none else some name

end Library

/-- Library names in ascending order, each once. -/
abbrev LibrarySet := List String

namespace LibrarySet

/-- Puts a name at its place in an ascending list, unless it is there already. -/
def insertSorted (name : String) : List String → List String
  | [] => [name]
  | other :: others =>
    if name < other then name :: other :: others
    else if name = other then other :: others
    else other :: insertSorted name others

/-- Adds a name without the blanks around it. A blank name adds nothing. -/
def insert (libraries : LibrarySet) (name : List Char) : LibrarySet :=
  let name := Text.trim name
  if name.isEmpty then libraries else insertSorted (String.ofList name) libraries

/-- The set of the names listed. -/
def ofList (names : List (List Char)) : LibrarySet := names.foldl insert []

end LibrarySet

end SourceOutline
