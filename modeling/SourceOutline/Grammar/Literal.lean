import SourceOutline.Text.Search
import SourceOutline.Json.Reader

/-!
# String literals

A literal as it is written, and the text that it stands for. Escapes that name no
character stay as they are written.
-/

namespace SourceOutline.Grammar

open Text

/-- A string literal. -/
structure Literal where
  /-- The flags and quotes in front. -/
  opening : List Char
  /-- What stands between the quotes, as written. -/
  content : List Char
  /-- Some of the content is an expression. -/
  interpolated : Bool
  /-- The row of the opening quote. -/
  firstRow : Nat
  /-- The row of the closing quote, or the row on which the line behind it goes on. -/
  lastRow : Nat
  deriving DecidableEq, Repr

/-- An octal digit. -/
def isOctal (c : Char) : Bool := '0' ≤ c && c ≤ '7'

/-- A hexadecimal digit. -/
def isHex (c : Char) : Bool := (Json.hexDigit? c).isSome

/-- The value of digits in a base. -/
def digitsIn (base : Nat) (digits : List Char) : Nat :=
  digits.foldl (fun value c => value * base + (Json.hexDigit? c).getD 0) 0

/-- The character with this code point, if there is one. -/
def scalar? (value : Nat) : Option Char :=
  if value.isValidChar then some (Char.ofNat value) else none

/-- How many hexadecimal digits follow an escape letter. -/
def hexWidth? : Char → Option Nat
  | 'x' => some 2
  | 'u' => some 4
  | 'U' => some 8
  | _ => none

/-- The value of an escape made of one letter. -/
def letterEscape? : Char → Option (List Char)
  | '\n' => some []
  | '\\' => some ['\\']
  | '\'' => some ['\'']
  | '"' => some ['"']
  | 'a' => some ['\x07']
  | 'b' => some ['\x08']
  | 'f' => some ['\x0c']
  | 'n' => some ['\n']
  | 'r' => some ['\r']
  | 't' => some ['\t']
  | 'v' => some ['\x0b']
  | _ => none

/-- The value of the escape with the given letter, and how many of the characters behind
the letter belong to it. -/
def escapeValue (letter : Char) (rest : List Char) : List Char × Nat :=
  match letterEscape? letter, hexWidth? letter with
  | some value, _ => (value, 0)
  | none, some width =>
    let digits := (rest.take width).takeWhile isHex
    match scalar? (digitsIn 16 digits) with
    | some c =>
      if digits.length = width then ([c], width) else ('\\' :: letter :: digits, digits.length)
    | none => ('\\' :: letter :: digits, digits.length)
  | none, none =>
    if isOctal letter then
      let digits := (rest.take 2).takeWhile isOctal
      ((scalar? (digitsIn 8 (letter :: digits))).toList, digits.length)
    else (['\\', letter], 0)

/-- The text with its escapes replaced by their values. -/
def decodeEscapes : List Char → List Char
  | [] => []
  | c :: rest =>
    if c = '\\' then
      match rest with
      | [] => ['\\']
      | letter :: tail =>
        let (value, used) := escapeValue letter tail
        value ++ decodeEscapes (tail.drop used)
    else c :: decodeEscapes rest
termination_by text => text.length
decreasing_by
  all_goals simp_wf
  all_goals omega

namespace Literal

/-- One of the flags in front of the quotes, in either case. -/
def hasFlag (literal : Literal) (flag : Char) : Bool := (lowerAscii literal.opening).contains flag

/-- The text that a literal stands for. Bytes and literals with expressions have none. -/
def value? (literal : Literal) : Option (List Char) :=
  if literal.hasFlag 'f' || literal.hasFlag 'b' || literal.interpolated then none
  else if literal.hasFlag 'r' then some literal.content
  else some (decodeEscapes literal.content)

end Literal

end SourceOutline.Grammar
