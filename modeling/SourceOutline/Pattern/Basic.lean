import SourceOutline.Pattern.CharClass

/-!
# Patterns

A pattern describes texts, and the order of its alternatives is an order of preference.
Repetition prefers one more round. A pattern may mark a name: the text between the two
marks is what a match reports.
-/

namespace SourceOutline

/-- The two ends of the name that a pattern reports. -/
inductive Pattern.Edge where
  | first
  | last
  deriving DecidableEq, Repr

/-- A pattern for texts. -/
inductive Pattern where
  /-- The empty text. -/
  | empty
  /-- One character of a class. -/
  | one (cls : Pattern.CharClass)
  /-- The first pattern, then the second. -/
  | seq (front back : Pattern)
  /-- The first pattern, or else the second. -/
  | alt (preferred other : Pattern)
  /-- Any number of rounds, as many as possible first. -/
  | star (round : Pattern)
  /-- The empty text, noted as one end of the name. -/
  | mark (edge : Pattern.Edge)
  /-- The start of the text. -/
  | textStart
  /-- The end of the text. -/
  | textEnd
  /-- The start of a line. -/
  | lineStart
  /-- The end of a line. -/
  | lineEnd
  /-- A word character on exactly one side. -/
  | wordEdge
  deriving DecidableEq, Repr

namespace Pattern

/-- All patterns one after the other. -/
def all : List Pattern → Pattern
  | [] => empty
  | [p] => p
  | p :: ps => seq p (all ps)

/-- One of the patterns, the earlier the better. -/
def choose : List Pattern → Pattern
  | [] => empty
  | [p] => p
  | p :: ps => alt p (choose ps)

/-- The text itself. -/
def text (s : String) : Pattern := all (s.toList.map fun c => one (.single c))

/-- The text in any mixture of letter cases. -/
def foldedText (s : String) : Pattern := all (s.toList.map fun c => one (.folded c))

/-- One of the texts, the earlier the better. -/
def words (ws : List String) : Pattern := choose (ws.map text)

/-- The pattern, or else nothing. -/
def maybe (p : Pattern) : Pattern := alt p empty

/-- At least one round. -/
def plus (p : Pattern) : Pattern := seq p (star p)

/-- Any number of characters of a class. -/
def many (cls : CharClass) : Pattern := star (one cls)

/-- At least one character of a class. -/
def some1 (cls : CharClass) : Pattern := plus (one cls)

/-- Any number of blanks. -/
def blanks : Pattern := many .blank

/-- At least one blank. -/
def gap : Pattern := some1 .blank

/-- The pattern, reported as the name. -/
def name (p : Pattern) : Pattern := seq (mark .first) (seq p (mark .last))

/-- A name: one character of the first class, then any number of the second. -/
def identifier (start part : CharClass) : Pattern := seq (one start) (many part)

/-- The text between two characters that the inner class excludes. -/
def between (left : Char) (inner : CharClass) (right : Char) : Pattern :=
  all [one (.single left), many inner, one (.single right)]

end Pattern

end SourceOutline
