import SourceOutline.Text.Search

/-!
# Parameter lists in running text

The list behind a declared name is read as plain text: up to the parenthesis that closes
it, cut at commas outside brackets and strings, and one name taken from each part.
-/

namespace SourceOutline.Outline

open Text

/-- How a parameter is written. -/
inductive ParameterStyle where
  /-- The name stands before a colon. -/
  | colonTyped
  /-- The name stands behind the type. -/
  | typeFirst
  /-- The name stands before the type. -/
  | nameFirst
  deriving DecidableEq, Repr

/-- Where a scan stands with respect to string literals. -/
inductive StringState where
  /-- Outside. -/
  | outside
  /-- Inside a literal that this quote closes. -/
  | inside (quote : Char)
  /-- Inside, behind a backslash. -/
  | escaped (quote : Char)
  deriving DecidableEq, Repr

/-- The state behind one character of a literal. -/
def StringState.insideAfter (quote c : Char) : StringState :=
  if c = '\\' then .escaped quote else if c = quote then .outside else .inside quote

/-- The text up to the parenthesis that closes `depth` open ones, if there is one. A line
feed leaves the state as it is, so a backslash at the end of a line escapes the first
character of the next. -/
def closedList? (quotes : List Char) (depth : Nat) (state : StringState) :
    List Char → Option (List Char)
  | [] => none
  | c :: rest =>
    if c = '\n' then (closedList? quotes depth state rest).map (c :: ·)
    else
      match state with
      | .inside quote =>
        (closedList? quotes depth (.insideAfter quote c) rest).map (c :: ·)
      | .escaped quote => (closedList? quotes depth (.inside quote) rest).map (c :: ·)
      | .outside =>
        if quotes.contains c then (closedList? quotes depth (.inside c) rest).map (c :: ·)
        else if c = '(' then (closedList? quotes (depth + 1) .outside rest).map (c :: ·)
        else if c = ')' then
          if depth ≤ 1 then some []
          else (closedList? quotes (depth - 1) .outside rest).map (c :: ·)
        else (closedList? quotes depth .outside rest).map (c :: ·)

/-- The text between the parentheses that follow a declared name. `rest` is the text behind
the name on its line and `below` the lines on which the list may go on. -/
def parameterText? (quotes rest : List Char) (below : List Line) : Option (List Char) :=
  let front := rest.takeWhile (· != '(')
  if front.length = rest.length || front.any fun c => c == '\x7b' || c == ';' then none
  else closedList? quotes 1 .outside (joinLines (rest.drop (front.length + 1) :: below))

/-- Puts a character in front of the first part. -/
def growFirst (c : Char) : List (List Char) → List (List Char)
  | [] => [[c]]
  | part :: parts => (c :: part) :: parts

/-- The parts between commas outside brackets and strings. An arrow does not close a
bracket, and a closing bracket without an open one changes nothing. -/
def splitParameters (quotes : List Char) (depth : Nat) (state : StringState) (previous : Char) :
    List Char → List (List Char)
  | [] => [[]]
  | c :: rest =>
    match state with
    | .inside quote => growFirst c (splitParameters quotes depth (.insideAfter quote c) c rest)
    | .escaped quote => growFirst c (splitParameters quotes depth (.inside quote) c rest)
    | .outside =>
      if quotes.contains c then growFirst c (splitParameters quotes depth (.inside c) c rest)
      else if c = '(' || c = '[' || c = '\x7b' || c = '<' then
        growFirst c (splitParameters quotes (depth + 1) .outside c rest)
      else if c = '>' && (previous = '-' || previous = '=') then
        growFirst c (splitParameters quotes depth .outside c rest)
      else if c = ')' || c = ']' || c = '\x7d' || c = '>' then
        growFirst c (splitParameters quotes (depth - 1) .outside c rest)
      else if c = ',' && depth = 0 then [] :: splitParameters quotes depth .outside c rest
      else growFirst c (splitParameters quotes depth .outside c rest)

/-- The parts of a parameter text. -/
def parameterParts (quotes raw : List Char) : List (List Char) :=
  splitParameters quotes 0 .outside (Char.ofNat 0) raw

/-- A character that starts an ASCII identifier. -/
def isAsciiStart (c : Char) : Bool := c.isAlpha || c == '_'

/-- A character that continues an ASCII identifier. -/
def isAsciiPart (c : Char) : Bool := c.isAlphanum || c == '_'

/-- The ASCII identifiers of a text, from left to right. The flag says that the character
in front belongs to the identifier being read. -/
def asciiIdentifiers (reading : Bool) : List Char → List (List Char)
  | [] => if reading then [[]] else []
  | c :: rest =>
    if reading then
      if isAsciiPart c then growFirst c (asciiIdentifiers true rest)
      else [] :: asciiIdentifiers false rest
    else if isAsciiStart c then growFirst c (asciiIdentifiers true rest)
    else asciiIdentifiers false rest

/-- The name declared by one part, if there is one. A default value is left out. -/
def parameterName? (style : ParameterStyle) (part : List Char) : Option (List Char) :=
  let declaration := trim (part.takeWhile (· != '='))
  match style with
  | .colonTyped => (asciiIdentifiers false (declaration.takeWhile (· != ':'))).getLast?
  | .typeFirst =>
    if declaration == "void".toList then none
    else (asciiIdentifiers false declaration).getLast?
  | .nameFirst => (asciiIdentifiers false declaration).head?

/-- The names declared by a parameter text. -/
def parameterNames (style : ParameterStyle) (quotes raw : List Char) : List (List Char) :=
  (parameterParts quotes raw).filterMap (parameterName? style)

end SourceOutline.Outline
