import SourceOutline.Language.Basic
import SourceOutline.Pattern.Search

/-!
# Content signatures

A file whose extension says nothing is classified by what its text holds. The rules are
tried in order and the first that holds decides.
-/

namespace SourceOutline.Language

/-- A condition on a text. -/
inductive Signature where
  /-- The text holds this text. -/
  | holdsText (needle : String)
  /-- The pattern matches somewhere. -/
  | holdsPattern (pattern : Pattern)
  /-- Both conditions hold. -/
  | both (first second : Signature)
  /-- At least one of the conditions holds. -/
  | either (first second : Signature)

/-- The condition holds of the text. -/
def Signature.holds (source : List Char) : Signature → Bool
  | holdsText needle => Text.hasInfix needle.toList source
  | holdsPattern pattern => pattern.isMatch source
  | both first second => first.holds source && second.holds source
  | either first second => first.holds source || second.holds source

section Patterns

open Pattern

/-- A word of any characters that words may hold. -/
private def wordText : Pattern := some1 .word

/-- A keyword at the start of a line, then a gap. -/
private def lineKeyword (keyword : String) : List Pattern :=
  [lineStart, blanks, text keyword, gap]

/-- The head of a function of Rust. -/
private def rustFunction : Pattern := all [wordEdge, text "fn", gap, wordText]

/-- A binding of Rust with a type. -/
private def rustBinding : Pattern :=
  all [wordEdge, text "let", gap, maybe (seq (text "mut") gap), wordText, blanks, text ":"]

/-- A `use` of Rust with a path. -/
private def rustUse : Pattern := all (lineKeyword "use" ++ [wordText, text "::"])

/-- The package line of Go. -/
private def goPackage : Pattern := all (lineKeyword "package" ++ [wordText])

/-- The head of an import block of Go. -/
private def goImportBlock : Pattern := all [lineStart, blanks, text "import", blanks, text "("]

/-- The head of a method of Ruby. -/
private def rubyMethod : Pattern := all (lineKeyword "def" ++ [wordText])

/-- A `require` of Ruby. -/
private def rubyRequire : Pattern :=
  all [lineStart, blanks, text "require", maybe (text "_relative"), blanks, maybe (text "("),
    blanks, one (.oneOf "'\"")]

/-- The head of a function of Python. -/
private def pythonFunction : Pattern :=
  all [lineStart, blanks, maybe (seq (text "async") gap), text "def", gap, wordText, blanks,
    text "(", many .inLine, text ")", blanks, maybe (seq (text "->") (many .inLine)), text ":",
    blanks, lineEnd]

/-- An import of Python. -/
private def pythonImport : Pattern :=
  all [lineStart, blanks, alt (all [text "import", gap, wordText])
    (all [text "from", gap, some1 (.wordOr "."), gap, text "import", gap])]

/-- The head of a public class. -/
private def publicClass : Pattern :=
  all [wordEdge, text "public", gap,
    star (seq (words ["abstract", "final", "static", "open", "data"]) gap), text "class", gap,
    wordText, many (.noneOf "\x7b;"), text "\x7b"]

/-- A function or a binding with a type of Kotlin. -/
private def kotlinWords : Pattern :=
  alt (all [wordEdge, text "fun", gap, wordText])
    (all [wordEdge, words ["val", "var"], gap, wordText, blanks, text ":", blanks, wordText])

/-- A function or a binding of JavaScript. -/
private def scriptBinding : Pattern :=
  alt (all [wordEdge, text "function", wordEdge])
    (all [wordEdge, words ["const", "let", "var"], gap, some1 (.wordOr "$"), blanks, text "="])

/-- The rules, in the order in which they are tried. -/
def contentRules : List (Language × Signature) :=
  [(cpp, .either (.holdsText "#include") (.holdsText "using namespace")),
    (swift, .both (.holdsText "func") (.holdsText "import Foundation")),
    (rust, .both (.holdsPattern rustFunction)
      (.either (.holdsPattern rustBinding) (.holdsPattern rustUse))),
    (go, .both (.holdsPattern goPackage) (.holdsPattern goImportBlock)),
    (ruby, .both (.holdsPattern rubyMethod) (.holdsPattern rubyRequire)),
    (php, .holdsText "<?php"),
    (python, .both (.holdsPattern pythonFunction) (.holdsPattern pythonImport)),
    (kotlin, .both (.holdsPattern publicClass) (.holdsPattern kotlinWords)),
    (java, .holdsPattern publicClass),
    (javaScript, .holdsPattern scriptBinding)]

end Patterns

/-- The language of the first content rule that holds. -/
def ofContent (source : List Char) : Language :=
  match contentRules.find? fun (_, signature) => signature.holds source with
  | some (language, _) => language
  | none => unknown

/-- The language of a file: by its extension, else by its content. -/
def classify (filename source : List Char) : Language :=
  let byPath := ofPath filename
  if byPath.isKnown then byPath else ofContent source

end SourceOutline.Language
