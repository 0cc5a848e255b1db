import SourceOutline.Json.Basic

/-!
# Reading records from JSON

A record is an object or an array of its fields in order. In an object unknown keys are
passed over and a known key stands at most once.
-/

namespace SourceOutline.Json

/-- The largest machine word. -/
def maxWord : Nat := UInt64.size - 1

/-- The value of decimal digits. -/
def digitsValue (digits : List Char) : Nat :=
  digits.foldl (fun value c => value * 10 + (c.toNat - '0'.toNat)) 0

/-- The natural number that a literal without sign, point and exponent stands for. -/
def natLiteral? (literal : String) : Option Nat :=
  let digits := literal.toList
  if digits.isEmpty || !digits.all Char.isDigit then none else some (digitsValue digits)

/-- A number that fits into a machine word. -/
def word? : Json → Option Nat
  | number literal => (natLiteral? literal).filter (· ≤ maxWord)
  | _ => none

/-- A text. -/
def text? : Json → Option String
  | string value => some value
  | _ => none

/-- A truth value. -/
def bool? : Json → Option Bool
  | bool value => some value
  | _ => none

/-- A text or null. -/
def optionalText? : Json → Option (Option String)
  | null => some none
  | string value => some (some value)
  | _ => none

/-- The items of an array. -/
def items : Json → Option (List Json)
  | array items => some items
  | _ => none

/-- Items that all have one shape. -/
def listOf? {α : Type} (read : Json → Option α) (value : Json) : Option (List α) :=
  value.items.bind (·.mapM read)

/-- The name of a choice: a text, or an object with that key alone and null below it. -/
def choice? : Json → Option String
  | string name => some name
  | object [(name, null)] => some name
  | _ => none

/-- The values that stand at a key. -/
def valuesAt (key : String) (members : List (String × Json)) : List Json :=
  (members.filter (·.1 == key)).map (·.2)

/-- The value at a key, the first if there are several. -/
def get? (key : String) : Json → Option Json
  | object members => (valuesAt key members).head?
  | _ => none

/-- The values of the known keys. None of them may stand twice. -/
def fieldsOfMembers? (keys : List String) (members : List (String × Json)) :
    Option (List (Option Json)) :=
  keys.mapM fun key =>
    match valuesAt key members with
    | [] => some none
    | [value] => some (some value)
    | _ => none

/-- The fields of a record whose array form lists every field. -/
def record? (keys : List String) : Json → Option (List (Option Json))
  | object members => fieldsOfMembers? keys members
  | array items => if items.length = keys.length then some (items.map some) else none
  | _ => none

/-- The fields of a record whose array form may stop early. -/
def openRecord? (keys : List String) : Json → Option (List (Option Json))
  | object members => fieldsOfMembers? keys members
  | array items =>
    if items.length ≤ keys.length then
      some (items.map some ++ List.replicate (keys.length - items.length) none)
    else none
  | _ => none

end SourceOutline.Json
