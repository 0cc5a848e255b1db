import SourceOutline.Declaration
import SourceOutline.Grammar.Literal

/-!
# Syntax trees

What an outline needs of a Python source: where its definitions, imports and strings stand
and which rows hold code. All else is a token or a group of parts.
-/

namespace SourceOutline.Grammar

/-- One entry of a parameter list. -/
inductive Parameter where
  /-- A name alone. -/
  | plain (name : List Char)
  /-- A name with a default value. -/
  | withDefault (name : List Char)
  /-- A name with a type. -/
  | typed (name : List Char)
  /-- A name with a type and a default value. -/
  | typedWithDefault (name : List Char)
  /-- Names in brackets, with or without a default value. -/
  | grouped
  /-- Takes the remaining arguments, positional or named. -/
  | splat (typed : Bool)
  /-- The star that ends the positional parameters. -/
  | star
  /-- The slash that ends the parameters without a name. -/
  | slash
  deriving DecidableEq, Repr

/-- The name of a regular parameter. -/
def Parameter.name? : Parameter → Option (List Char)
  | plain name | withDefault name | typed name | typedWithDefault name => some name
  | _ => none

/-- No later parameter is listed. -/
def Parameter.isStop : Parameter → Bool
  | splat _ | star => true
  | _ => false

/-- An import statement. Module names are kept as they are written. -/
inductive Import where
  /-- Whole modules. -/
  | modules (names : List (List Char))
  /-- Names of a module. -/
  | members (name : List Char)
  /-- Names of a module relative to this one, or of the package itself. -/
  | relative (name : Option (List Char))
  /-- Language features. -/
  | future
  deriving DecidableEq, Repr

/-- A part of a source. -/
inductive Tree where
  /-- A word, number, operator, bracket or line break, up to the row on which it ends or on
  which its line goes on, if it is continued. -/
  | token (row : Nat)
  /-- A comment. -/
  | comment (row : Nat)
  /-- A string. -/
  | string (literal : Literal)
  /-- Strings side by side. -/
  | strings (parts : List Literal)
  /-- An import statement. -/
  | importing (statement : Import) (firstRow lastRow : Nat)
  /-- A statement that is an expression. -/
  | expression (parts : List Tree)
  /-- Any other construct. -/
  | group (parts : List Tree)
  /-- A class or function, from the row of its first word on, with the statements of its
  body. -/
  | define (kind : DeclarationKind) (name : List Char) (parameters : List Parameter) (row : Nat)
      (body : List Tree)
  deriving Repr, Inhabited

mutual

/-- The last row that holds code. Every construct holds a token, be it an empty line break, so
only comments have none. -/
def Tree.codeEnd? : Tree → Option Nat
  | .token row => some row
  | .comment _ => none
  | .string literal => some literal.lastRow
  | .strings parts => parts.getLast?.map (·.lastRow)
  | .importing _ _ lastRow => some lastRow
  | .expression parts => codeEndOfList? parts
  | .group parts => codeEndOfList? parts
  | .define _ _ _ row body => (codeEndOfList? body).or (some row)

/-- The last row of the parts that holds code. -/
def codeEndOfList? : List Tree → Option Nat
  | [] => none
  | part :: parts => (codeEndOfList? parts).or part.codeEnd?

end

end SourceOutline.Grammar
