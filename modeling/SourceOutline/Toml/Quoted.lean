import SourceOutline.Toml.Scalar

/-!
# Strings of a TOML document as text

A string is written in the first form that shows it as it is: in double quotes, in single
quotes, then over several lines in three double or three single quotes. Only a string
that fits into none of them has escapes.
-/

namespace SourceOutline.Toml

/-- The longest run of a character. -/
def longestRun (quote : Char) : List Char → Nat → Nat
  | [], _ => 0
  | c :: rest, run =>
    if c = quote then max (run + 1) (longestRun quote rest (run + 1)) else longestRun quote rest 0

/-- The letter of an escape. -/
def escapeLetter? : Char → Option Char
  | '\x08' => some 'b'
  | '\t' => some 't'
  | '\n' => some 'n'
  | '\x0c' => some 'f'
  | '\r' => some 'r'
  | '"' => some '"'
  | '\\' => some '\\'
  | _ => none

/-- A hexadecimal digit. -/
def upperHex (digit : Nat) : Char := (Nat.digitChar digit).toUpper

/-- A character that may not stand in a string, as an escape. -/
def escapeControl (c : Char) : List Char :=
  ['\\', 'u', '0', '0', upperHex (c.toNat / 16), upperHex (c.toNat % 16)]

/-- The text between double quotes. In the long form line ends stay, and so do up to two
quotes in a row. -/
def escaped (long : Bool) : Nat → List Char → List Char
  | _, [] => []
  | quotes, c :: rest =>
    if c = '"' ∧ long ∧ quotes < 2 then c :: escaped long (quotes + 1) rest
    else if c = '\n' ∧ long then c :: escaped long 0 rest
    else
      match escapeLetter? c with
      | some letter => '\\' :: letter :: escaped long 0 rest
      | none =>
        if isControl c then escapeControl c ++ escaped long 0 rest
        else c :: escaped long 0 rest

/-- A string as it stands in a document. -/
def quoted (value : String) : String :=
  let text := value.toList
  let hasLines := text.contains '\n'
  let hasControls := text.any fun c => isControl c && c != '\n'
  let hasBackslash := text.contains '\\'
  let opening := if hasLines then ['\n'] else []
  let basic := '"' :: escaped false 0 text ++ ['"']
  let long := ['"', '"', '"'] ++ opening ++ escaped true 0 text ++ ['"', '"', '"']
  let literal := '\'' :: text ++ ['\'']
  let longLiteral := ['\'', '\'', '\''] ++ opening ++ text ++ ['\'', '\'', '\'']
  String.ofList <|
    if !hasControls && !hasBackslash && !text.contains '"' && !hasLines then basic
    else if !hasControls && !text.contains '\'' && !hasLines then literal
    else if !hasControls && !hasBackslash && longestRun '"' text 0 ≤ 2 then long
    else if !hasControls && longestRun '\'' text 0 ≤ 2 then longLiteral
    else if hasLines then long
    else basic

end SourceOutline.Toml
