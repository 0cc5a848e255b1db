import SourceOutline.Text.Blank
import SourceOutline.Text.WordChar

/-!
# Character classes

A class is a list of members, taken as it is or as its complement.
-/

namespace SourceOutline.Pattern

/-- One member of a character class. -/
inductive ClassItem where
  /-- A single character. -/
  | char (c : Char)
  /-- All characters between two, both included. -/
  | range (low high : Char)
  /-- Letters, marks, digits, connectors and joiners. -/
  | word
  /-- Characters with the White_Space property. -/
  | blank
  deriving DecidableEq, Repr

/-- The character belongs to the member. -/
def ClassItem.holds (c : Char) : ClassItem → Bool
  | char d => c == d
  | range low high => low ≤ c && c ≤ high
  | word => Text.isWordChar c
  | blank => Text.isBlank c

/-- A set of characters. -/
structure CharClass where
  /-- The members listed. -/
  items : List ClassItem
  /-- The set is everything but the members. -/
  negated : Bool := false
  deriving DecidableEq, Repr

namespace CharClass

/-- The character belongs to the class. -/
def holds (cls : CharClass) (c : Char) : Bool :=
  cls.items.any (ClassItem.holds c) != cls.negated

/-- One character alone. -/
def single (c : Char) : CharClass := ⟨[.char c], false⟩

/-- One of the characters listed. -/
def oneOf (chars : String) : CharClass := ⟨chars.toList.map .char, false⟩

/-- Any character but those listed. -/
def noneOf (chars : String) : CharClass := ⟨chars.toList.map .char, true⟩

/-- A word character. -/
def word : CharClass := ⟨[.word], false⟩

/-- A blank. -/
def blank : CharClass := ⟨[.blank], false⟩

/-- A character that is not blank. -/
def ink : CharClass := ⟨[.blank], true⟩

/-- Any character but the line feed. -/
def inLine : CharClass := ⟨[.char '\n'], true⟩

/-- A word character or one of those listed. -/
def wordOr (chars : String) : CharClass := ⟨.word :: chars.toList.map .char, false⟩

/-- A blank or one of the characters listed. -/
def blankOr (chars : String) : CharClass := ⟨.blank :: chars.toList.map .char, false⟩

/-- An ASCII letter. -/
def letterItems : List ClassItem := [.range 'A' 'Z', .range 'a' 'z']

/-- An ASCII letter or one of the characters listed. -/
def letterOr (chars : String) : CharClass := ⟨letterItems ++ chars.toList.map .char, false⟩

/-- The letter in either case, with the other characters that fold to it. -/
def folded (c : Char) : CharClass :=
  ⟨(if c == 's' then [.char 'ſ'] else if c == 'k' then [.char 'K'] else []) ++
    [.char c.toLower, .char c.toUpper], false⟩

end CharClass

end SourceOutline.Pattern
