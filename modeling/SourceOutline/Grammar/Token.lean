import SourceOutline.Text.Identifier

/-!
# Tokens

The words of a Python source, and the characters that they are made of. Line breaks and
changes of indentation are tokens too, with no text of their own.
-/

namespace SourceOutline.Grammar

open Text

/-- The flags and quotes that open a string. -/
structure Opening where
  /-- As written. -/
  text : List Char
  /-- The quote that closes the string. -/
  quote : Char
  /-- Three quotes close it. -/
  triple : Bool
  /-- Backslashes are plain characters. -/
  raw : Bool
  /-- Holds bytes. -/
  bytes : Bool
  /-- Braces hold expressions. -/
  format : Bool
  deriving DecidableEq, Repr

/-- One token. -/
inductive Token where
  /-- An identifier or keyword. -/
  | word (text : String)
  | number
  /-- An operator, separator or bracket. -/
  | mark (text : String)
  /-- The start of a string. -/
  | quote (opening : Opening)
  /-- A conversion of an interpolated value, such as `!r`. -/
  | conversion
  /-- The end of a statement. -/
  | newline
  /-- The start of a deeper block. -/
  | indent
  /-- The end of a block. -/
  | dedent
  /-- The end of the source. -/
  | finish
  /-- A character that starts no token. -/
  | stray
  deriving DecidableEq, Repr, Inhabited

/-- Words that are never names. -/
def reservedWords : List String :=
  ["False", "None", "True", "and", "as", "assert", "async", "await", "break", "class",
    "continue", "def", "del", "elif", "else", "except", "finally", "for", "from", "global",
    "if", "import", "in", "is", "lambda", "nonlocal", "not", "or", "pass", "raise", "return",
    "try", "while", "with", "yield"]

/-- The word is a name. -/
def isName (word : String) : Bool := !reservedWords.contains word

/-- Reserved words that are names where an expression is expected. -/
def isOperandName (word : String) : Bool := isName word || word == "async" || word == "await"

/-- Operators, separators and brackets, the longer ones first. -/
def marks : List String :=
  ["**=", "//=", ">>=", "<<=", "...", "->", ":=", "==", "!=", "<>", "<=", ">=", "+=", "-=",
    "*=", "/=", "%=", "@=", "&=", "|=", "^=", "**", "//", ">>", "<<", "+", "-", "*", "/", "%",
    "@", "&", "|", "^", "~", "<", ">", "=", "(", ")", "[", "]", "\x7b", "\x7d", ",", ":", ".",
    ";"]

/-- Characters that only separate tokens. -/
def isSeparator (c : Char) : Bool :=
  let n := c.toNat
  (0x9 ≤ n && n ≤ 0xd) || n == 0x20 || n == 0xfeff || n == 0x2060 || n == 0x200b

/-- Drops digits of the given kind, with single underscores after groups. The flag tells
that an underscore may stand here. -/
def skipDigits (isDigit : Char → Bool) : Bool → List Char → List Char
  | _, [] => []
  | underscore, c :: rest =>
    if isDigit c then skipDigits isDigit true rest
    else if c = '_' ∧ underscore then skipDigits isDigit false rest
    else c :: rest

/-- Drops one character of the list in front, if there is one. -/
def skipOne (options : List Char) : List Char → List Char
  | [] => []
  | c :: rest => if options.contains c then rest else c :: rest

/-- A decimal digit stands in front. -/
def startsDigit : List Char → Bool
  | c :: _ => c.isDigit
  | [] => false

/-- Drops an exponent, if there is one. -/
def skipExponent : List Char → List Char
  | c :: rest =>
    if c = 'e' ∨ c = 'E' then
      let digits := skipOne ['+', '-'] rest
      if startsDigit digits then skipDigits Char.isDigit false digits else c :: rest
    else c :: rest
  | [] => []

/-- What stands behind a number in decimal notation. -/
def afterDecimal (text : List Char) : List Char :=
  let rest := skipDigits Char.isDigit false text
  match rest with
  | '.' :: fraction =>
    let fraction :=
      if startsDigit fraction then skipDigits Char.isDigit false fraction else fraction
    skipOne ['j', 'J'] (skipExponent fraction)
  | _ =>
    let exponent := skipExponent rest
    if exponent.length < rest.length then skipOne ['j', 'J'] exponent
    else skipOne ['l', 'L', 'j', 'J'] rest

/-- What stands behind digits in another base, when at least one digit stands there. -/
def afterBase? (isDigit : Char → Bool) (text : List Char) : Option (List Char) :=
  let digits := skipOne ['_'] text
  match digits with
  | c :: _ => if isDigit c then some (skipBaseDigits digits) else none
  | [] => none
where
  skipBaseDigits : List Char → List Char
    | [] => []
    | [c] => if isDigit c || c == 'l' || c == 'L' then [] else [c]
    | c :: d :: rest =>
      if isDigit c then skipBaseDigits (d :: rest)
      else if c == '_' && isDigit d then skipBaseDigits rest
      else skipOne ['l', 'L'] (c :: d :: rest)

/-- What stands behind the number in front. -/
def afterNumber (text : List Char) : List Char :=
  let inBase : Option (List Char) :=
    match text with
    | '0' :: c :: rest =>
      if c = 'x' ∨ c = 'X' then
        afterBase? (fun d => d.isDigit || ('a' ≤ d && d ≤ 'f') || ('A' ≤ d && d ≤ 'F')) rest
      else if c = 'o' ∨ c = 'O' then afterBase? (fun d => '0' ≤ d && d ≤ '7') rest
      else if c = 'b' ∨ c = 'B' then afterBase? (fun d => d == '0' || d == '1') rest
      else none
    | _ => none
  inBase.getD (afterDecimal text)

/-- The operator, separator or bracket in front. -/
def markAt? (text : List Char) : Option String := marks.find? (·.toList.isPrefixOf text)

/-- The token in front of a text that starts with no separator, and what stands behind. -/
def tokenAt (text : List Char) : Token × List Char :=
  match text with
  | [] => (.finish, [])
  | c :: rest =>
    if isIdentifierStart c then
      let tail := rest.takeWhile isIdentifierPart
      (.word (String.ofList (c :: tail)), rest.drop tail.length)
    else if c.isDigit || (c == '.' && startsDigit rest) then (.number, afterNumber text)
    else
      match c, rest with
      | '!', d :: tail =>
        if d = '=' then (.mark "!=", tail)
        else if 'a' ≤ d ∧ d ≤ 'z' then (.conversion, tail)
        else (.stray, rest)
      | _, _ =>
        match markAt? text with
        | some mark => (.mark mark, text.drop mark.length)
        | none => (.stray, rest)

/-- The flags in front of a quote. -/
def isStringFlag (c : Char) : Bool :=
  c == 'f' || c == 'F' || c == 't' || c == 'T' || c == 'r' || c == 'R' || c == 'b' || c == 'B' ||
    c == 'u' || c == 'U'

/-- The string that starts in front, and what stands behind its opening. -/
def openingAt? (text : List Char) : Option (Opening × List Char) :=
  let flags := text.takeWhile isStringFlag
  match text.drop flags.length with
  | [] => none
  | quote :: rest =>
    if quote == '"' || quote == '\'' || quote == '`' then
      let triple := quote != '`' && [quote, quote].isPrefixOf rest
      let quotes := if triple then [quote, quote, quote] else [quote]
      some ({ text := flags ++ quotes, quote, triple
              raw := flags.any fun c => c == 'r' || c == 'R'
              bytes := flags.any fun c => c == 'b' || c == 'B'
              format := flags.any fun c => c == 'f' || c == 'F' || c == 't' || c == 'T' },
            if triple then rest.drop 2 else rest)
    else none

end SourceOutline.Grammar
