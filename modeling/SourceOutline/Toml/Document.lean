import SourceOutline.Toml.Statement

/-!
# TOML documents

The lines of a document are put together into one table. A document that breaks a rule is
refused as a whole.
-/

namespace SourceOutline.Toml

/-- A document while its lines are put together. -/
structure Draft where
  /-- The path of the table in hand. -/
  path : List String
  /-- All entries. -/
  entries : List (String × Node)

namespace Draft

/-- Nothing yet. -/
def empty : Draft := ⟨[], []⟩

/-- The draft with one more line. -/
def add? (draft : Draft) : Statement → Option Draft
  | .assign path value =>
    (Node.atPath? (Node.assign? value path) draft.path draft.entries).map fun entries =>
      ⟨draft.path, entries⟩
  | .header path =>
    match path.getLast? with
    | none => none
    | some key =>
      (Node.atPath? (Node.open? key) path.dropLast draft.entries).map fun entries =>
        ⟨path, entries⟩
  | .item path =>
    match path.getLast? with
    | none => none
    | some key =>
      (Node.atPath? (Node.extend? key) path.dropLast draft.entries).map fun entries =>
        ⟨path, entries⟩

end Draft

/-- The text without a byte order mark in front. -/
def dropMark : List Char → List Char
  | '\ufeff' :: rest => rest
  | text => text

/-- The entries of a document. -/
def parse? (text : List Char) : Option (List (String × Value)) :=
  let text := dropMark text
  match statements? (text.length + 1) text with
  | none => none
  | some statements =>
    (statements.foldlM Draft.add? Draft.empty).map fun draft => Node.freezeEntries draft.entries

end SourceOutline.Toml
