import SourceOutline.Toml.Value

/-!
# Tables while a document is read

A table can grow as long as the rules allow it: one that a header names is complete for
assignments with a path, and one that such assignments made is complete for headers. A
table that only stands on the way to others may still get a header of its own.
-/

namespace SourceOutline.Toml

/-- How a table came to be. -/
inductive Origin where
  /-- It stands on the way of a header to another table. -/
  | passed
  /-- A header names it. -/
  | header
  /-- An assignment has it on its path. -/
  | path
  deriving DecidableEq, Repr

/-- A value that is complete, or tables that can grow. -/
inductive Node where
  | value (value : Value)
  | table (origin : Origin) (entries : List (String × Node))
  /-- An array of tables: the earlier ones, and the entries of the last. -/
  | tables (earlier : List Value) (entries : List (String × Node))

namespace Node

/-- The node at a key of a list of entries. -/
def find? (key : String) (entries : List (String × Node)) : Option Node :=
  (entries.find? (·.1 == key)).map (·.2)

/-- The entries with the node at a key put in place, or added at the end. -/
def put (key : String) (node : Node) : List (String × Node) → List (String × Node)
  | [] => [(key, node)]
  | (other, old) :: rest =>
    if other == key then (other, node) :: rest else (other, old) :: put key node rest

mutual

/-- The value that a node has become. -/
def freeze : Node → Value
  | value complete => complete
  | table _ entries => .table (freezeEntries entries)
  | tables earlier entries => .array (earlier ++ [.table (freezeEntries entries)])

/-- The values that the entries of a table have become. -/
def freezeEntries : List (String × Node) → List (String × Value)
  | [] => []
  | (key, node) :: rest => (key, freeze node) :: freezeEntries rest

end

/-- A value put at a path. The last key must be new. -/
def assign? (assigned : Value) : List String → List (String × Node) → Option (List (String × Node))
  | [], _ => none
  | [key], entries =>
    match find? key entries with
    | none => some (put key (.value assigned) entries)
    | some _ => none
  | key :: next :: path, entries =>
    match find? key entries with
    | none =>
      (assign? assigned (next :: path) []).map fun inner => put key (.table .path inner) entries
    | some (.table origin inner) =>
      if origin = .header ∨ (origin = .passed ∧ path = []) then none
      else
        (assign? assigned (next :: path) inner).map fun inner =>
          put key (.table origin inner) entries
    | some (.tables earlier inner) =>
      if path = [] then none
      else
        (assign? assigned (next :: path) inner).map fun inner =>
          put key (.tables earlier inner) entries
    | some (.value _) => none

/-- A change made to the table at the end of the path of a header. Tables on the way that
are missing are added, and of an array of tables the last one is meant. -/
def atPath? (change : List (String × Node) → Option (List (String × Node))) :
    List String → List (String × Node) → Option (List (String × Node))
  | [], entries => change entries
  | key :: path, entries =>
    match find? key entries with
    | none => (atPath? change path []).map fun inner => put key (.table .passed inner) entries
    | some (.table origin inner) =>
      (atPath? change path inner).map fun inner => put key (.table origin inner) entries
    | some (.tables earlier inner) =>
      (atPath? change path inner).map fun inner => put key (.tables earlier inner) entries
    | some (.value _) => none

/-- The table that a header names, which no header named before. -/
def open? (key : String) (entries : List (String × Node)) : Option (List (String × Node)) :=
  match find? key entries with
  | none => some (put key (.table .header []) entries)
  | some (.table .passed inner) => some (put key (.table .header inner) entries)
  | some _ => none

/-- One more table at the end of an array of tables. -/
def extend? (key : String) (entries : List (String × Node)) : Option (List (String × Node)) :=
  match find? key entries with
  | none => some (put key (.tables [] []) entries)
  | some (.tables earlier inner) =>
    some (put key (.tables (earlier ++ [.table (freezeEntries inner)]) []) entries)
  | some _ => none

end Node

end SourceOutline.Toml
