import SourceOutline.Text.Lines

/-!
# Files and folders

What a path leads to, seen from a working folder. Folders are there because of the files
in them.
-/

namespace SourceOutline

/-- What a path leads to. -/
inductive Entry where
  | file (bytes : List Nat)
  | folder
  | missing
  /-- A file stands where the path needs a folder. -/
  | blocked
  deriving DecidableEq, Repr

/-- Something is there. -/
def Entry.exists : Entry → Bool
  | file _ | folder => true
  | missing | blocked => false

/-- Files with their places below the working folder. -/
structure FileTree where
  /-- The parts of each path, and the content. -/
  files : List (List String × List Nat)
  deriving DecidableEq, Repr

namespace FileTree

/-- The parts of a path. -/
def parts (path : String) : List String :=
  (path.toList.splitOn '/').map String.ofList

/-- The parts that name something. -/
def place (path : String) : List String :=
  (parts path).filter fun part => part != "" && part != "."

/-- What stands at a place. -/
def entryAt (tree : FileTree) (place : List String) : Entry :=
  match tree.files.lookup place with
  | some bytes => .file bytes
  | none =>
    if place.isEmpty || tree.files.any (fun (other, _) => place.isPrefixOf other) then .folder
    else .missing

/-- Follows the parts of a path from a place. -/
def walk (tree : FileTree) : List String → List String → Entry
  | place, [] => tree.entryAt place
  | place, part :: rest =>
    match tree.entryAt place with
    | .folder =>
      if part == "" || part == "." then walk tree place rest
      else if part == ".." then walk tree place.dropLast rest
      else walk tree (place ++ [part]) rest
    | .file _ => .blocked
    | other => other

/-- What a path leads to. -/
def entry (tree : FileTree) (path : String) : Entry :=
  if path.isEmpty || path.toList.head? == some '/' then .missing
  else tree.walk [] (parts path)

/-- The tree with a file written. -/
def write (tree : FileTree) (path : String) (bytes : List Nat) : FileTree :=
  let place := place path
  ⟨(place, bytes) :: tree.files.filter (·.1 != place)⟩

end FileTree

end SourceOutline
