import SourceOutline.Json.Basic

/-!
# Reading JSON

The reader accepts the standard's texts and nothing else: no leading zeros and no control
characters in strings. A string with the escape of a surrogate outside a pair has no value,
but does not spoil the text around it. An object with such a key is kept as its text.
-/

namespace SourceOutline.Json

/-- Blanks between tokens. -/
def isSpace (c : Char) : Bool := c == ' ' || c == '\t' || c == '\n' || c == '\r'

/-- Drops blanks in front. -/
def skipSpace (text : List Char) : List Char := text.dropWhile isSpace

/-- The value of a hexadecimal digit. -/
def hexDigit? (c : Char) : Option Nat :=
  if c.isDigit then some (c.toNat - '0'.toNat)
  else if 'a' ≤ c ∧ c ≤ 'f' then some (c.toNat - 'a'.toNat + 10)
  else if 'A' ≤ c ∧ c ≤ 'F' then some (c.toNat - 'A'.toNat + 10)
  else none

/-- The value of four hexadecimal digits, and what stands behind them. -/
def hexQuad? : List Char → Option (Nat × List Char)
  | a :: b :: c :: d :: rest =>
    match hexDigit? a, hexDigit? b, hexDigit? c, hexDigit? d with
    | some a, some b, some c, some d => some (((a * 16 + b) * 16 + c) * 16 + d, rest)
    | _, _, _, _ => none
  | _ => none

/-- The character of an escape with a `u`, read behind that letter. -/
def unicodeEscape? (text : List Char) : Option (Char × List Char) :=
  match hexQuad? text with
  | none => none
  | some (high, rest) =>
    if 0xd800 ≤ high ∧ high < 0xdc00 then
      match rest with
      | '\\' :: 'u' :: more =>
        match hexQuad? more with
        | some (low, rest) =>
          if 0xdc00 ≤ low ∧ low < 0xe000 then
            some (Char.ofNat (0x10000 + (high - 0xd800) * 0x400 + (low - 0xdc00)), rest)
          else none
        | none => none
      | _ => none
    else if 0xdc00 ≤ high ∧ high < 0xe000 then none
    else some (Char.ofNat high, rest)

/-- The character that one escape letter stands for. -/
def simpleEscape? : Char → Option Char
  | '"' => some '"'
  | '\\' => some '\\'
  | '/' => some '/'
  | 'b' => some '\x08'
  | 'f' => some '\x0c'
  | 'n' => some '\n'
  | 'r' => some '\r'
  | 't' => some '\t'
  | _ => none

/-- The characters of a string up to its closing quote, and what stands behind it. The
fuel is the length of the text, which each step shortens. -/
def stringBody? : Nat → List Char → Option (List Char × List Char)
  | 0, _ => none
  | _ + 1, [] => none
  | fuel + 1, c :: rest =>
    if c = '"' then some ([], rest)
    else if c = '\\' then
      match rest with
      | 'u' :: more =>
        match unicodeEscape? more with
        | none => none
        | some (c, rest) => (stringBody? fuel rest).map fun (body, tail) => (c :: body, tail)
      | e :: more =>
        match simpleEscape? e with
        | none => none
        | some c => (stringBody? fuel more).map fun (body, tail) => (c :: body, tail)
      | [] => none
    else if c.toNat < 0x20 then none
    else (stringBody? fuel rest).map fun (body, tail) => (c :: body, tail)

/-- A string read behind its opening quote. -/
def string? (text : List Char) : Option (String × List Char) :=
  (stringBody? (text.length + 1) text).map fun (body, rest) => (String.ofList body, rest)

/-- What stands behind a string, whatever its escapes stand for, read behind its opening quote.
The fuel is the length of the text, which each step shortens. -/
def skipString? : Nat → List Char → Option (List Char)
  | 0, _ => none
  | _ + 1, [] => none
  | fuel + 1, c :: rest =>
    if c = '"' then some rest
    else if c = '\\' then
      match rest with
      | 'u' :: more =>
        match hexQuad? more with
        | none => none
        | some (_, rest) => skipString? fuel rest
      | e :: more =>
        match simpleEscape? e with
        | none => none
        | some _ => skipString? fuel more
      | [] => none
    else if c.toNat < 0x20 then none
    else skipString? fuel rest

/-- A string that may have no value, read behind its opening quote. -/
def quoted? (text : List Char) : Option (Option String × List Char) :=
  match string? text with
  | some (value, rest) => some (some value, rest)
  | none => (skipString? (text.length + 1) text).map fun rest => (none, rest)

/-- The text in front of a rest. -/
def front (text rest : List Char) : String := String.ofList (text.take (text.length - rest.length))

/-- A string between a text and a rest. -/
def ofQuoted (text rest : List Char) : Option String → Json
  | some value => string value
  | none => unpaired (front text rest)

/-- Members, if all their keys have values. -/
def keyed? (entries : List (Option String × Json)) : Option (List (String × Json)) :=
  entries.mapM fun (key, value) => key.map fun key => (key, value)

/-- An object between a text and a rest. -/
def ofEntries (text rest : List Char) (entries : List (Option String × Json)) : Json :=
  match keyed? entries with
  | some members => object members
  | none => unpaired (front text rest)

/-- At least one digit, and what stands behind the digits. -/
def digits? (text : List Char) : Option (List Char × List Char) :=
  let digits := text.takeWhile Char.isDigit
  if digits.isEmpty then none else some (digits, text.drop digits.length)

/-- The digits before the point: zero alone, or no zero in front. -/
def integerPart? : List Char → Option (List Char × List Char)
  | '0' :: rest => some (['0'], rest)
  | text => digits? text

/-- The point with its digits, if there is one. -/
def fraction? : List Char → Option (List Char × List Char)
  | '.' :: rest => (digits? rest).map fun (digits, rest) => ('.' :: digits, rest)
  | text => some ([], text)

/-- The exponent, if there is one. -/
def exponent? : List Char → Option (List Char × List Char)
  | e :: rest =>
    if e = 'e' ∨ e = 'E' then
      let sign := (rest.take 1).filter fun c => c == '+' || c == '-'
      (digits? (rest.drop sign.length)).map fun (digits, rest) => (e :: sign ++ digits, rest)
    else some ([], e :: rest)
  | [] => some ([], [])

/-- A number as its text. -/
def number? (text : List Char) : Option (String × List Char) :=
  let sign := (text.take 1).filter (· == '-')
  match integerPart? (text.drop sign.length) with
  | none => none
  | some (whole, rest) =>
    match fraction? rest with
    | none => none
    | some (fraction, rest) =>
      (exponent? rest).map fun (exponent, rest) =>
        (String.ofList (sign ++ whole ++ fraction ++ exponent), rest)

mutual

/-- A value and what stands behind it. -/
def value? : Nat → List Char → Option (Json × List Char)
  | 0, _ => none
  | fuel + 1, text =>
    match skipSpace text with
    | 'n' :: 'u' :: 'l' :: 'l' :: rest => some (null, rest)
    | 't' :: 'r' :: 'u' :: 'e' :: rest => some (bool true, rest)
    | 'f' :: 'a' :: 'l' :: 's' :: 'e' :: rest => some (bool false, rest)
    | '"' :: more =>
      (quoted? more).map fun (value, rest) => (ofQuoted ('"' :: more) rest value, rest)
    | '[' :: rest =>
      match skipSpace rest with
      | ']' :: rest => some (array [], rest)
      | rest => (items? fuel rest).map fun (items, rest) => (array items, rest)
    | '\x7b' :: more =>
      match skipSpace more with
      | '\x7d' :: rest => some (object [], rest)
      | inner =>
        (entries? fuel inner).map fun (entries, rest) =>
          (ofEntries ('\x7b' :: more) rest entries, rest)
    | rest => (number? rest).map fun (literal, rest) => (number literal, rest)

/-- Items up to the closing bracket. -/
def items? : Nat → List Char → Option (List Json × List Char)
  | 0, _ => none
  | fuel + 1, text =>
    match value? fuel text with
    | none => none
    | some (item, rest) =>
      match skipSpace rest with
      | ']' :: rest => some ([item], rest)
      | ',' :: rest => (items? fuel rest).map fun (items, rest) => (item :: items, rest)
      | _ => none

/-- Members up to the closing brace, also those whose keys have no value. -/
def entries? : Nat → List Char → Option (List (Option String × Json) × List Char)
  | 0, _ => none
  | fuel + 1, text =>
    match skipSpace text with
    | '"' :: rest =>
      match quoted? rest with
      | none => none
      | some (key, rest) =>
        match skipSpace rest with
        | ':' :: rest =>
          match value? fuel rest with
          | none => none
          | some (value, rest) =>
            match skipSpace rest with
            | '\x7d' :: rest => some ([(key, value)], rest)
            | ',' :: rest =>
              (entries? fuel rest).map fun (entries, rest) => ((key, value) :: entries, rest)
            | _ => none
        | _ => none
    | _ => none

end

/-- The value that a text holds, with nothing but blanks around it. -/
def parse? (text : List Char) : Option Json :=
  match value? (text.length + 1) text with
  | some (value, rest) => if (skipSpace rest).isEmpty then some value else none
  | none => none

end SourceOutline.Json
