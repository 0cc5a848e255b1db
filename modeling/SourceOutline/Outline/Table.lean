import SourceOutline.Language.Basic
import SourceOutline.Outline.DocComment
import SourceOutline.Outline.Parameters
import SourceOutline.Pattern.Search

/-!
# Line patterns of the languages

For each language that is outlined line by line: the patterns of its imports, functions
and classes, how it writes parameters and comments, and which characters open a string in
a parameter list. Every pattern is matched against one line.
-/

namespace SourceOutline.Outline

open Pattern

/-- Imports grouped in a block: the line that opens it, its lines, and the line that
closes it. -/
structure ImportBlock where
  /-- Opens a block. -/
  start : Pattern
  /-- Names a library inside a block. -/
  line : Pattern
  /-- Closes a block. -/
  stop : Pattern

/-- The line patterns of a language. -/
structure Table where
  /-- Patterns that report an import path. -/
  imports : List Pattern
  /-- Grouped imports. -/
  block : Option ImportBlock := none
  /-- Patterns that report a function's name. -/
  functions : List Pattern
  /-- Patterns that report a class's name. -/
  classes : List Pattern
  /-- How parameters are written. -/
  style : ParameterStyle
  /-- How comments are written. -/
  comments : CommentStyle
  /-- Characters that open a string in a parameter list. -/
  quotes : String := "\"'`"

/-- Comments with slashes. -/
def slashComments : CommentStyle := ⟨["///", "//!", "//"], true⟩

/-- Comments with number signs. -/
def hashComments : CommentStyle := ⟨["#"], false⟩

/-- Comments with slashes or number signs. -/
def mixedComments : CommentStyle := ⟨["//", "#"], true⟩

namespace Table

/-- An identifier of letters, digits and underscores. -/
private def plainName : Pattern := identifier (.letterOr "_") .word

/-- An identifier that may also hold dollar signs. -/
private def dollarName : Pattern := identifier (.letterOr "_$") (.wordOr "$")

/-- A line that starts, after blanks, with the patterns listed. -/
private def line (ps : List Pattern) : Pattern := all (textStart :: blanks :: ps)

/-- Any number of the words listed, each with a gap behind it. -/
private def modifiers (ws : List String) : Pattern := star (seq (words ws) gap)

/-- The word with a gap behind it, or nothing. -/
private def maybeWord (word : String) : Pattern := maybe (seq (text word) gap)

/-- A text in quotes of either kind, reported as the name. -/
private def quotedName : List Pattern :=
  [one (.oneOf "'\""), name (some1 (.noneOf "'\"")), one (.oneOf "'\"")]

/-- An opening parenthesis, then no semicolon up to the end of the line. -/
private def openSignature : List Pattern := [blanks, text "(", many (.noneOf ";"), textEnd]

/-- A header in angle brackets or quotes, reported as the name. -/
private def bracketedHeader : List Pattern :=
  [blanks, one (.oneOf "<\""), name (some1 (.noneOf ">\"")), one (.oneOf ">\"")]

/-- An `#include` of C. -/
private def cInclude : Pattern := line ([text "#", blanks, text "include"] ++ bracketedHeader)

/-- A function of C: types in front of the name and an open signature. -/
private def cFunction : Pattern :=
  line ([plus (seq plainName (some1 (.blankOr "*&"))), name plainName] ++ openSignature)

/-- A `struct` of C. -/
private def cStruct : Pattern :=
  line [maybeWord "typedef", text "struct", gap, name plainName, blanks, maybe (text "\x7b"),
    blanks, textEnd]

/-- The `template` in front of a declaration, or nothing. -/
private def cppTemplate : Pattern :=
  maybe (all [text "template", blanks, between '<' (.noneOf ">") '>', blanks])

/-- A name of C++, that of a destructor included. -/
private def cppName : Pattern := seq (maybe (text "~")) plainName

/-- A function of C++ with a type in front of its name. -/
private def cppFunction : Pattern :=
  line ([cppTemplate,
    plus (all [identifier (.letterOr "_") (.wordOr ":"),
      maybe (between '<' (.noneOf ";()") '>'), some1 (.blankOr "*&")]),
    star (seq plainName (text "::")), name cppName] ++ openSignature)

/-- A member function without a type, such as a constructor, outside its class. -/
private def cppQualified : Pattern :=
  line ([plus (seq plainName (text "::")), name cppName] ++ openSignature)

/-- A class or `struct` of C++, perhaps with bases. -/
private def cppClass : Pattern :=
  line [cppTemplate, words ["class", "struct"], gap, name plainName,
    maybe (seq gap (text "final")), blanks, maybe (seq (text ":") (many (.noneOf ";\x7b"))),
    maybe (text "\x7b"), blanks, textEnd]

/-- Imports of JavaScript and TypeScript. -/
private def scriptImports : List Pattern :=
  [line ([text "import", gap, maybeWord "type",
      maybe (all [
        some1 ⟨[.word, .char '*', .char '\x7b', .char '\x7d', .blank, .char ',', .char '$'], false⟩,
        gap, text "from", gap])] ++ quotedName),
    line ([text "export", gap, many .inLine, wordEdge, text "from", gap] ++ quotedName),
    all ([wordEdge, text "require", blanks, text "(", blanks] ++ quotedName ++ [blanks, text ")"])]

/-- A `function` of JavaScript and TypeScript. -/
private def scriptFunction : Pattern :=
  line [maybeWord "export", maybeWord "default", maybeWord "async", text "function", blanks,
    maybe (text "*"), blanks, name dollarName, blanks, text "("]

/-- A function bound to a name. -/
private def scriptArrow : Pattern :=
  line [maybeWord "export", words ["const", "let", "var"], gap, name dollarName, blanks, text "=",
    blanks, maybeWord "async",
    choose [seq (text "function") wordEdge,
      all [between '(' (.noneOf ")") ')', blanks, text "=>"],
      all [dollarName, blanks, text "=>"]]]

/-- A method in a class. -/
private def scriptMethod : Pattern :=
  line [maybeWord "static", maybeWord "async",
    maybe (alt (seq (text "get") gap) (seq (text "set") gap)), name dollarName, blanks,
    between '(' (.noneOf ")") ')', blanks, text "\x7b"]

/-- JavaScript. -/
def javaScript : Table where
  imports := scriptImports
  functions := [scriptFunction, scriptArrow, scriptMethod]
  classes := [line [maybeWord "export", maybeWord "default", text "class", gap, name dollarName]]
  style := .colonTyped
  comments := slashComments

/-- TypeScript. -/
def typeScript : Table where
  imports := scriptImports
  functions := [scriptFunction, scriptArrow,
    line [modifiers ["public", "private", "protected", "static", "async", "override", "readonly",
        "abstract"],
      name dollarName, blanks, maybe (between '<' (.noneOf ">") '>'), blanks,
      between '(' (.noneOf ")") ')', blanks,
      maybe (all [text ":", blanks, some1 (.noneOf "=\x7b;")]), text "\x7b"]]
  classes :=
    [line [maybeWord "export", maybeWord "default", maybeWord "abstract", text "class", gap,
        name dollarName],
      line [maybeWord "export", text "interface", gap, name dollarName]]
  style := .colonTyped
  comments := slashComments

/-- A type as it stands before a method's name. -/
private def typeWords : Pattern := plus (seq (some1 (.wordOr "<>[].,?")) gap)

/-- Java. -/
def java : Table where
  imports :=
    [line [text "import", gap, maybeWord "static",
      name (seq (some1 (.wordOr ".")) (maybe (text ".*"))), blanks, text ";"]]
  functions :=
    [line ([star (all [text "@", some1 .word, maybe (between '(' (.noneOf ")") ')'), gap]),
      typeWords, name dollarName] ++ openSignature)]
  classes :=
    [line [modifiers ["public", "protected", "private", "static", "abstract", "final", "sealed",
        "non-sealed", "strictfp"],
      words ["class", "interface", "enum", "record", "@interface"], gap, name dollarName]]
  style := .typeFirst
  comments := slashComments

/-- The import of a dotted path. -/
private def dottedImport : Pattern := line [text "import", gap, name (some1 (.wordOr "."))]

/-- Kotlin. -/
def kotlin : Table where
  imports := [dottedImport]
  functions :=
    [line [modifiers ["public", "private", "protected", "internal", "override", "open", "abstract",
        "final", "suspend", "inline", "operator", "infix", "tailrec", "external"],
      text "fun", gap, maybe (seq (between '<' (.noneOf ">") '>') blanks),
      maybe (seq (some1 (.wordOr ".")) (text ".")), name plainName, blanks, text "("]]
  classes :=
    [line [modifiers ["public", "private", "protected", "internal", "open", "abstract", "sealed",
        "data", "enum", "inner", "annotation", "value"],
      words ["class", "interface", "object"], gap, name plainName]]
  style := .colonTyped
  comments := slashComments

/-- Scala. -/
def scala : Table where
  imports := [dottedImport]
  functions :=
    [line [modifiers ["override", "private", "protected", "final", "implicit", "inline"],
      text "def", gap, name plainName]]
  classes :=
    [line [modifiers ["abstract", "final", "sealed", "case", "implicit", "private", "protected"],
      words ["class", "trait", "object"], gap, name plainName]]
  style := .colonTyped
  comments := slashComments

/-- C. -/
def c : Table where
  imports := [cInclude]
  functions := [cFunction]
  classes := [cStruct]
  style := .typeFirst
  comments := slashComments

/-- C++. -/
def cpp : Table where
  imports := [cInclude]
  functions := [cppFunction, cppQualified]
  classes := [cppClass]
  style := .typeFirst
  comments := slashComments

/-- Imports of Objective-C. -/
private def objectiveImports : List Pattern :=
  [line ([text "#", blanks, words ["import", "include"]] ++ bracketedHeader),
    line [text "@import", gap, name (some1 (.wordOr "."))]]

/-- A method of Objective-C. -/
private def objectiveMethod : Pattern :=
  line [one (.oneOf "-+"), blanks, between '(' (.noneOf ")") ')', blanks, name plainName]

/-- An interface, implementation or protocol of Objective-C. -/
private def objectiveClass : Pattern :=
  line [text "@", words ["interface", "implementation", "protocol"], gap, name plainName]

/-- Objective-C. -/
def objectiveC : Table where
  imports := objectiveImports
  functions := [objectiveMethod, cFunction]
  classes := [objectiveClass, cStruct]
  style := .typeFirst
  comments := slashComments

/-- Objective-C++. -/
def objectiveCpp : Table where
  imports := objectiveImports
  functions := [objectiveMethod, cppFunction, cppQualified]
  classes := [objectiveClass, cppClass]
  style := .typeFirst
  comments := slashComments

/-- C#. -/
def csharp : Table where
  imports :=
    [line [maybeWord "global", text "using", gap, maybeWord "static", name (some1 (.wordOr ".")),
      blanks, text ";"]]
  functions :=
    [line ([star (seq (between '[' (.noneOf "]") ']') blanks), typeWords, name plainName, blanks,
      maybe (between '<' (.noneOf ">") '>')] ++ openSignature)]
  classes :=
    [line [modifiers ["public", "private", "protected", "internal", "static", "abstract", "sealed",
        "partial", "readonly", "ref"],
      words ["class", "struct", "interface", "record", "enum"], gap, name plainName]]
  style := .typeFirst
  comments := slashComments

/-- A library in double quotes, perhaps behind a local name. -/
private def goImport : List Pattern :=
  [maybe (seq (some1 (.wordOr ".")) gap), text "\"", name (some1 (.noneOf "\"")), text "\""]

/-- Go. -/
def go : Table where
  imports := [line ([text "import", gap] ++ goImport)]
  block := some {
    start := line [text "import", blanks, text "(", blanks, textEnd]
    line := line goImport
    stop := line [text ")"] }
  functions :=
    [line [text "func", gap, maybe (seq (between '(' (.noneOf ")") ')') blanks), name plainName,
      blanks, maybe (between '[' (.noneOf "]") ']'), blanks, text "("]]
  classes :=
    [line [text "type", gap, name plainName, maybe (between '[' (.noneOf "]") ']'), gap,
      words ["struct", "interface"], wordEdge]]
  style := .nameFirst
  comments := slashComments

/-- The visibility in front of an item of Rust, or nothing. -/
private def rustVisibility : Pattern :=
  maybe (all [text "pub", maybe (between '(' (.noneOf ")") ')'), gap])

/-- Rust. A single quote marks a lifetime, so only the double quote opens a string. -/
def rust : Table where
  imports :=
    [line [rustVisibility, text "use", gap, maybe (text "::"), name (some1 (.wordOr ":"))],
      line [text "extern", gap, text "crate", gap, name (some1 .word)]]
  functions :=
    [line [rustVisibility,
      star (seq (choose [text "const", text "async", text "unsafe", text "default",
        seq (text "extern") (maybe (seq gap (between '"' (.noneOf "\"") '"')))]) gap),
      text "fn", gap, name plainName]]
  classes :=
    [line [rustVisibility, words ["struct", "enum", "trait", "union"], gap, name plainName]]
  style := .colonTyped
  comments := slashComments
  quotes := "\""

/-- Attributes in front of a declaration of Swift. -/
private def swiftAttributes : Pattern := star (all [text "@", some1 .word, gap])

/-- Swift. -/
def swift : Table where
  imports :=
    [line [maybe (all [text "@", some1 .word, gap]), text "import", gap,
      maybe (seq (words ["class", "struct", "enum", "protocol", "func", "var", "let", "typealias"])
        gap),
      name (some1 (.wordOr "."))]]
  functions :=
    [line [swiftAttributes,
      modifiers ["public", "private", "fileprivate", "internal", "open", "static", "class",
        "override", "final", "mutating", "nonmutating"],
      text "func", gap, name plainName]]
  classes :=
    [line [swiftAttributes,
      modifiers ["public", "private", "fileprivate", "internal", "open", "final"],
      words ["class", "struct", "enum", "protocol", "actor", "extension"], gap, name plainName,
      blanks, choose [one (.oneOf ":<\x7b"), seq (text "where") wordEdge, textEnd]]]
  style := .colonTyped
  comments := slashComments

/-- PHP. -/
def php : Table where
  imports :=
    [line ([words ["require", "include"], maybe (text "_once"), blanks, maybe (text "("), blanks]
        ++ quotedName),
      line [text "use", gap, maybe (alt (seq (text "function") gap) (seq (text "const") gap)),
        name (some1 (.wordOr "\\"))]]
  functions :=
    [line [modifiers ["public", "private", "protected", "static", "abstract", "final"],
      text "function", gap, maybe (text "&"), name plainName, blanks, text "("]]
  classes :=
    [line [modifiers ["abstract", "final", "readonly"],
      words ["class", "interface", "trait", "enum"], gap, name plainName]]
  style := .typeFirst
  comments := mixedComments

/-- A name that starts with a capital letter. -/
private def capitalName : Pattern := identifier ⟨[.range 'A' 'Z'], false⟩ .word

/-- Ruby. -/
def ruby : Table where
  imports :=
    [line ([words ["require", "require_relative", "load"], blanks, maybe (text "("), blanks]
      ++ quotedName)]
  functions :=
    [line [text "def", gap, maybe (text "self."),
      name (seq plainName (maybe (one (.oneOf "?!="))))]]
  classes :=
    [line [words ["class", "module"], gap,
      name (seq capitalName (star (seq (text "::") capitalName)))]]
  style := .colonTyped
  comments := hashComments

/-- Python. -/
def python : Table where
  imports :=
    [dottedImport,
      line [text "from", gap, name (some1 (.wordOr ".")), gap, text "import", wordEdge]]
  functions := [line [maybeWord "async", text "def", gap, name plainName, blanks, text "("]]
  classes := [line [text "class", gap, name plainName]]
  style := .colonTyped
  comments := hashComments

/-- A name in which dashes may stand. -/
private def dashedName : Pattern := identifier (.letterOr "_") (.wordOr "-")

/-- Shells. -/
def shell : Table where
  imports :=
    [line [words ["source", "."], gap, maybe (one (.oneOf "'\"")),
      name (some1 ⟨[.char '\'', .char '"', .blank, .char ';'], true⟩)]]
  functions :=
    [line [text "function", gap, name dashedName],
      line [name dashedName, blanks, text "(", blanks, text ")"]]
  classes := []
  style := .nameFirst
  comments := hashComments

/-- PowerShell, whose keywords are read in any case. -/
def powerShell : Table where
  imports :=
    [line [foldedText "import-module", gap, name (some1 (.wordOr ".-\\/"))],
      line [text ".", gap, name (seq (some1 .ink) (text ".ps1"))]]
  functions := [line [alt (foldedText "function") (foldedText "filter"), gap, name dashedName]]
  classes := [line [foldedText "class", gap, name plainName]]
  style := .typeFirst
  comments := hashComments

/-- A quote of either kind, or nothing. -/
private def maybeQuote : Pattern := maybe (one (.oneOf "'\""))

/-- R. -/
def r : Table where
  imports :=
    [line [words ["library", "require", "requireNamespace"], blanks, text "(", blanks, maybeQuote,
        name (some1 (.wordOr ".")), maybeQuote],
      line ([text "source", blanks, text "(", blanks] ++ quotedName)]
  functions :=
    [line [name (identifier (.letterOr "_.") (.wordOr ".")), blanks, words ["<-", "="], blanks,
      text "function", blanks, text "("]]
  classes :=
    [line [words ["setClass", "setRefClass", "R6Class"], blanks, text "(", blanks,
      one (.oneOf "'\""), name (some1 (.wordOr ".")), one (.oneOf "'\"")]]
  style := .colonTyped
  comments := hashComments

/-- The line patterns of a language. Data and markup formats have none. -/
def forLanguage? : Language → Option Table
  | .javaScript | .vue => some javaScript
  | .typeScript => some typeScript
  | .java => some java
  | .kotlin => some kotlin
  | .scala => some scala
  | .c => some c
  | .cpp => some cpp
  | .objectiveC => some objectiveC
  | .objectiveCpp => some objectiveCpp
  | .csharp => some csharp
  | .go => some go
  | .rust => some rust
  | .swift => some swift
  | .php => some php
  | .ruby => some ruby
  | .python => some python
  | .shell | .bash | .zsh => some shell
  | .powerShell => some powerShell
  | .r => some r
  | .html | .css | .scss | .sql | .xml | .json | .yaml | .toml | .markdown | .unknown => none

end Table

end SourceOutline.Outline
