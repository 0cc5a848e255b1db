/-!
# JSON values

A number is kept as it is written, and so is a string or an object in which half a character is
escaped. The members of an object keep their order, and a key may stand there more than once.
-/

namespace SourceOutline

/-- A JSON value. -/
inductive Json where
  | null
  | bool (value : Bool)
  /-- A number, as its text. -/
  | number (literal : String)
  | string (value : String)
  /-- A string or an object with an escape of half a character in its text or its keys, as it
  is written. It can be passed over, and nothing can be read from it. -/
  | unpaired (raw : String)
  | array (items : List Json)
  | object (members : List (String × Json))
  deriving Repr, Inhabited

namespace Json

/-- A natural number in decimal. -/
def ofNat (n : Nat) : Json := number (Nat.repr n)

/-- A list of texts. -/
def ofStrings (texts : List String) : Json := array (texts.map string)

/-- A text, or null. -/
def ofOption : Option String → Json
  | none => null
  | some text => string text

end Json

end SourceOutline
