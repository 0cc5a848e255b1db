import SourceOutline.Text.Blank

/-!
# Lines of a text

Two ways to cut a text into lines. `splitLines` cuts at every line feed and keeps all
else, so a text has one more line than it has line feeds and joining gives it back.
`textLines` reads line feeds as terminators, with an optional carriage return in front.
-/

namespace SourceOutline.Text

/-- One line, without its line feed. -/
abbrev Line := List Char

/-- The lines of a text, cut at line feeds only. -/
def splitLines (text : List Char) : List Line := text.splitOn '\n'

/-- Lines joined by line feeds. -/
def joinLines (lines : List Line) : List Char := ['\n'].intercalate lines

/-- Removes one carriage return at the end. -/
def dropReturn (line : Line) : Line :=
  if line.getLast? = some '\r' then line.dropLast else line

/-- Lines as terminated texts: a final line feed opens no further line, and a carriage
return directly before a line feed belongs to the terminator. -/
def terminatedLines : List Line → List Line
  | [] => []
  | [last] => if last.isEmpty then [] else [last]
  | line :: lines => dropReturn line :: terminatedLines lines

/-- The terminated lines of a text. -/
def textLines (text : List Char) : List Line := terminatedLines (splitLines text)

/-- Lines with at least one character that is not blank. -/
def codeLineCount (text : List Char) : Nat :=
  ((textLines text).filter fun line => !(trim line).isEmpty).length

/-- The lines from `first` to `last`, both included, joined again. Lines beyond the end
are left out, and an empty range gives the empty text. -/
def sliceLines (lines : List Line) (first last : Nat) : List Char :=
  if lines.length ≤ first ∨ last < first then []
  else joinLines ((lines.drop first).take (last + 1 - first))

end SourceOutline.Text
