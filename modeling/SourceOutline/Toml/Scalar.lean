import SourceOutline.Decimal.Reading
import SourceOutline.Grammar.Literal
import SourceOutline.Toml.Value

/-!
# Strings, numbers and dates of a TOML document

Every reader gives a value and what stands behind it.
-/

namespace SourceOutline.Toml

open Decimal (splitSign double)
open Grammar

/-- Characters that may not stand in a document, line ends apart. -/
def isControl (c : Char) : Bool := (c.toNat < 0x20 && c != '\t') || c.toNat == 0x7f

/-- The character of an escape letter. -/
def escapeChar? : Char → Option Char
  | 'b' => some '\x08'
  | 't' => some '\t'
  | 'n' => some '\n'
  | 'f' => some '\x0c'
  | 'r' => some '\r'
  | '"' => some '"'
  | '\\' => some '\\'
  | _ => none

/-- The character written with a number of hexadecimal digits. -/
def hexEscape? (width : Nat) (text : List Char) : Option Char :=
  let digits := text.take width
  if digits.length = width ∧ digits.all isHex then scalar? (digitsIn 16 digits) else none

/-- The escape behind a backslash: its character and how many characters it takes. -/
def escapeAt? : List Char → Option (Char × Nat)
  | 'u' :: rest => (hexEscape? 4 rest).map fun c => (c, 5)
  | 'U' :: rest => (hexEscape? 8 rest).map fun c => (c, 9)
  | letter :: _ => (escapeChar? letter).map fun c => (c, 1)
  | [] => none

/-- A string in double quotes on one line, behind its opening quote. -/
def basicString? : Nat → List Char → Option (List Char × List Char)
  | 0, _ => none
  | _, [] => none
  | fuel + 1, c :: rest =>
    if c = '"' then some ([], rest)
    else if c = '\\' then
      match escapeAt? rest with
      | none => none
      | some (value, used) =>
        (basicString? fuel (rest.drop used)).map fun (body, tail) => (value :: body, tail)
    else if isControl c then none
    else (basicString? fuel rest).map fun (body, tail) => (c :: body, tail)

/-- A string in single quotes on one line, behind its opening quote. -/
def literalString? : List Char → Option (List Char × List Char)
  | [] => none
  | c :: rest =>
    if c = '\'' then some ([], rest)
    else if isControl c then none
    else (literalString? rest).map fun (body, tail) => (c :: body, tail)

/-- A line end in front is dropped. -/
def dropNewline : List Char → List Char
  | '\n' :: rest => rest
  | '\r' :: '\n' :: rest => rest
  | text => text

/-- The closing quotes of a string over several lines. Up to two more quotes in front of
the closing three belong to the string. -/
def closingQuotes? (quote : Char) (text : List Char) : Option (List Char × List Char) :=
  let run := (text.takeWhile (· == quote)).length
  if 3 ≤ run ∧ run ≤ 5 then some (List.replicate (run - 3) quote, text.drop run)
  else if 5 < run then some ([quote, quote], text.drop 5)
  else none

/-- What stands behind a backslash at the end of a line: the next character that is no
blank, on a later line. -/
def lineContinuation? (text : List Char) : Option (List Char) :=
  let rest := text.dropWhile fun c => c == ' ' || c == '\t'
  if dropNewline rest == rest then none
  else some (rest.dropWhile fun c => c == ' ' || c == '\t' || c == '\n' || c == '\r')

/-- A string in three double quotes, behind them and the first line end. -/
def longBasicString? : Nat → List Char → Option (List Char × List Char)
  | 0, _ => none
  | _, [] => none
  | fuel + 1, c :: rest =>
    match closingQuotes? '"' (c :: rest) with
    | some closed => some closed
    | none =>
      let keep (value : Char) (tail : List Char) :=
        (longBasicString? fuel tail).map fun (body, tail) => (value :: body, tail)
      if c = '\\' then
        match lineContinuation? rest, escapeAt? rest with
        | some tail, _ => longBasicString? fuel tail
        | none, some (value, used) => keep value (rest.drop used)
        | none, none => none
      else if c = '\r' then
        match rest with
        | '\n' :: tail => keep '\n' tail
        | _ => none
      else if isControl c && c != '\n' then none
      else keep c rest

/-- A string in three single quotes, behind them and the first line end. -/
def longLiteralString? : Nat → List Char → Option (List Char × List Char)
  | 0, _ => none
  | _, [] => none
  | fuel + 1, c :: rest =>
    match closingQuotes? '\'' (c :: rest) with
    | some closed => some closed
    | none =>
      let keep (value : Char) (tail : List Char) :=
        (longLiteralString? fuel tail).map fun (body, tail) => (value :: body, tail)
      if c = '\r' then
        match rest with
        | '\n' :: tail => keep '\n' tail
        | _ => none
      else if isControl c && c != '\n' then none
      else keep c rest

/-- A string of any form. -/
def string? (text : List Char) : Option (List Char × List Char) :=
  match text with
  | '"' :: '"' :: '"' :: rest => longBasicString? (rest.length + 1) (dropNewline rest)
  | '\'' :: '\'' :: '\'' :: rest => longLiteralString? (rest.length + 1) (dropNewline rest)
  | '"' :: rest => basicString? (rest.length + 1) rest
  | '\'' :: rest => literalString? rest
  | _ => none

/-- Digits with single underscores between them, without the underscores. -/
def groupedDigits? (isDigit : Char → Bool) (literal : List Char) : Option (List Char) :=
  let digits := literal.filter (· != '_')
  let groups := literal.splitOn '_'
  if !digits.isEmpty && digits.all isDigit && groups.all (!·.isEmpty) then some digits else none

/-- An integer in another base, behind its prefix. -/
def baseInteger? (base : Nat) (isDigit : Char → Bool) (literal : List Char) : Option Int :=
  (groupedDigits? isDigit literal).map fun digits => digitsIn base digits

/-- Decimal digits without a zero in front of others. -/
def wholeDigits? (literal : List Char) : Option (List Char) :=
  match groupedDigits? Char.isDigit literal with
  | some ('0' :: _ :: _) => none
  | digits => digits

/-- An integer within 64 bits. -/
def integer? (literal : List Char) : Option Int :=
  let value? : Option Int :=
    match literal with
    | '0' :: 'x' :: rest => baseInteger? 16 isHex rest
    | '0' :: 'o' :: rest => baseInteger? 8 isOctal rest
    | '0' :: 'b' :: rest => baseInteger? 2 (fun c => c == '0' || c == '1') rest
    | _ =>
      let (negative, digits) := splitSign literal
      (wholeDigits? digits).map fun digits =>
        let value : Int := digitsIn 10 digits
        if negative then -value else value
  value?.filter fun value => Int64.minValue.toInt ≤ value && value ≤ Int64.maxValue.toInt

/-- An exponent behind its letter. -/
def exponentValue? (literal : List Char) : Option Int :=
  let (negative, digits) := splitSign literal
  (groupedDigits? Char.isDigit digits).map fun digits =>
    let value : Int := digitsIn 10 digits
    if negative then -value else value

/-- A number with a point, an exponent or both, or one of the special ones. A number
without a minus may not be too large. -/
def real? (literal : List Char) : Option Float :=
  let (negative, body) := splitSign literal
  if body == ['i', 'n', 'f'] then some (if negative then -1.0 / 0.0 else 1.0 / 0.0)
  else if body == ['n', 'a', 'n'] then some (0.0 / 0.0)
  else
    let mantissa := body.takeWhile fun c => c != 'e' && c != 'E'
    let whole := mantissa.takeWhile (· != '.')
    let fraction? : Option (List Char) :=
      match mantissa.drop whole.length with
      | [] => some []
      | _ :: digits => groupedDigits? Char.isDigit digits
    let exponent? : Option Int :=
      match body.drop mantissa.length with
      | [] => some 0
      | _ :: rest => exponentValue? rest
    if whole.length = body.length then none
    else
      match wholeDigits? whole, fraction?, exponent? with
      | some whole, some fraction, some exponent =>
        let value := double negative (whole ++ fraction) (exponent - fraction.length)
        if value.isInf && !negative then none else some value
      | _, _, _ => none

/-- Two digits within a range. -/
def twoDigits? (low high : Nat) : List Char → Option (Nat × List Char)
  | a :: b :: rest =>
    if a.isDigit && b.isDigit then
      let value := digitsIn 10 [a, b]
      if low ≤ value && value ≤ high then some (value, rest) else none
    else none
  | _ => none

/-- The days of a month. -/
def daysIn (year month : Nat) : Nat :=
  if month = 2 then
    if (year % 4 = 0 ∧ year % 100 ≠ 0) ∨ year % 400 = 0 then 29 else 28
  else if month = 4 ∨ month = 6 ∨ month = 9 ∨ month = 11 then 30
  else 31

/-- What stands behind a date. -/
def afterDate? : List Char → Option (List Char)
  | a :: b :: c :: d :: '-' :: rest =>
    if [a, b, c, d].all Char.isDigit then
      match twoDigits? 1 12 rest with
      | some (month, '-' :: rest) =>
        (twoDigits? 1 (daysIn (digitsIn 10 [a, b, c, d]) month) rest).map (·.2)
      | _ => none
    else none
  | _ => none

/-- What stands behind a time of day. -/
def afterTime? (text : List Char) : Option (List Char) :=
  match twoDigits? 0 23 text with
  | some (_, ':' :: rest) =>
    match twoDigits? 0 59 rest with
    | some (_, ':' :: rest) =>
      match twoDigits? 0 60 rest with
      | some (_, '.' :: rest) =>
        let digits := rest.takeWhile Char.isDigit
        if digits.isEmpty then none else some (rest.drop digits.length)
      | some (_, rest) => some rest
      | none => none
    | _ => none
  | _ => none

/-- What stands behind an offset from universal time, if there is one. -/
def afterOffset? : List Char → Option (List Char)
  | 'Z' :: rest | 'z' :: rest => some rest
  | '+' :: rest | '-' :: rest =>
    match twoDigits? 0 23 rest with
    | some (_, ':' :: rest) => (twoDigits? 0 59 rest).map (·.2)
    | _ => none
  | rest => some rest

/-- A date, a time, or both, and what stands behind. -/
def date? (text : List Char) : Option (String × List Char) :=
  let after? : Option (List Char) :=
    match afterTime? text, afterDate? text with
    | some rest, _ => some rest
    | none, none => none
    | none, some (separator :: rest) =>
      if separator == 'T' || separator == 't' then (afterTime? rest).bind afterOffset?
      else if separator == ' ' then
        match afterTime? rest with
        | some rest => afterOffset? rest
        | none => some (separator :: rest)
      else some (separator :: rest)
    | none, some [] => some []
  after?.map fun rest => (String.ofList (text.take (text.length - rest.length)), rest)

/-- Characters of a word that is no string. -/
def isWordChar (c : Char) : Bool :=
  c.isAlphanum || c == '_' || c == '-' || c == '+' || c == '.' || c == ':'

/-- A truth value, number or date. -/
def scalar (text : List Char) : Option (Value × List Char) :=
  match date? text with
  | some (literal, rest) => some (.date literal, rest)
  | none =>
    let word := text.takeWhile isWordChar
    let rest := text.drop word.length
    if word == ['t', 'r', 'u', 'e'] then some (.truth true, rest)
    else if word == ['f', 'a', 'l', 's', 'e'] then some (.truth false, rest)
    else
      match integer? word, real? word with
      | some value, _ => some (.integer value, rest)
      | none, some value => some (.real value, rest)
      | none, none => none

end SourceOutline.Toml
