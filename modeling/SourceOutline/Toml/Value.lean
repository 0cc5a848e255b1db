/-!
# TOML values

Integers fit into 64 bits with a sign. Dates are kept as they are written. The entries of
a table keep their order, and each key stands once.
-/

namespace SourceOutline.Toml

/-- A value of a document. -/
inductive Value where
  | text (value : String)
  | integer (value : Int)
  | real (value : Float)
  | truth (value : Bool)
  | date (literal : String)
  | array (items : List Value)
  | table (entries : List (String × Value))
  deriving Repr, Inhabited

namespace Value

/-- The value at a key of a list of entries. -/
def find? (key : String) (entries : List (String × Value)) : Option Value :=
  (entries.find? (·.1 == key)).map (·.2)

/-- The entries with the value at a key put in place, or added at the end. -/
def put (key : String) (value : Value) : List (String × Value) → List (String × Value)
  | [] => [(key, value)]
  | (other, old) :: rest =>
    if other == key then (other, value) :: rest else (other, old) :: put key value rest

end Value

end SourceOutline.Toml
