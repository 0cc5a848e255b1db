import SourceOutline.Text.Search

/-!
# Documentation above a declaration

The comment that ends directly above a declaration, attributes in between left out, gives
its first meaningful line. The lines above are given nearest first.
-/

namespace SourceOutline.Outline

open Text

/-- How comments are written. -/
structure CommentStyle where
  /-- Texts that open a line comment, the longer ones first. -/
  line : List String
  /-- There are block comments. -/
  block : Bool
  deriving DecidableEq, Repr

/-- A decorator or attribute, given without the blanks around it. -/
def isAttribute (line : Line) : Bool :=
  "@".toList.isPrefixOf line || "#[".toList.isPrefixOf line ||
    ("[".toList.isPrefixOf line && "]".toList.isSuffixOf line)

/-- The text of a line comment, if the line is one. -/
def lineComment? (style : CommentStyle) (line : Line) : Option (List Char) :=
  let line := trim line
  if "#!".toList.isPrefixOf line || "#[".toList.isPrefixOf line then none
  else
    match style.line.find? (·.toList.isPrefixOf line) with
    | none => none
    | some marker =>
      some (trim ((line.drop marker.length).dropWhile fun c => c == '/' || c == '#' || c == '!'))

/-- What stands behind a tag that opens here, if one does: an angle bracket, perhaps a slash,
a letter, and anything up to the closing bracket. -/
def afterTag? : List Char → Option (List Char)
  | '<' :: rest =>
    let inner := match rest with
      | '/' :: more => more
      | _ => rest
    match inner with
    | c :: _ =>
      if c.isAlpha then
        match inner.dropWhile (· != '>') with
        | _ :: behind => some behind
        | [] => none
      else none
    | [] => none
  | _ => none

/-- The text without its tags. The fuel is the length of the text, which each step shortens. -/
def dropTags (text : List Char) : List Char :=
  go text.length text
where
  go : Nat → List Char → List Char
    | _, [] => []
    | 0, text => text
    | fuel + 1, c :: rest =>
      match afterTag? (c :: rest) with
      | some behind => go fuel behind
      | none => c :: go fuel rest

/-- A comment line without tags and without blanks around it. -/
def cleanComment (line : List Char) : List Char := trim (dropTags line)

/-- The meaningful line of a block comment, given from its opening on. -/
def blockSummary? (block : List Char) : Option (List Char) :=
  match cutAt? "/*".toList block with
  | none => none
  | some (_, body) =>
    let body := (dropEnding? "*/".toList (trimEnd body)).getD body
    ((textLines body).map fun line => cleanComment ((trim line).dropWhile (· == '*'))).find?
      fun line => !line.isEmpty && line.head? != some '@'

/-- The lines above up to the first that opens a block comment, in source order. -/
def blockLines? : List Line → Option (List Line)
  | [] => none
  | line :: above =>
    if hasInfix "/*".toList line then some [line]
    else (blockLines? above).map (· ++ [line])

/-- The run of line comments that ends directly above, in source order. -/
def commentRun (style : CommentStyle) (above : List Line) : List (List Char) :=
  ((above.takeWhile fun line => (lineComment? style line).isSome).filterMap
    (lineComment? style)).reverse

/-- The first meaningful line of the comment above a declaration. -/
def docComment? (style : CommentStyle) (above : List Line) : Option (List Char) :=
  match above.dropWhile fun line => isAttribute (trim line) with
  | [] => none
  | line :: higher =>
    if style.block && "*/".toList.isSuffixOf (trim line) then
      (blockLines? (line :: higher)).bind fun block => blockSummary? (joinLines block)
    else
      ((commentRun style (line :: higher)).map cleanComment).find? fun text => !text.isEmpty

end SourceOutline.Outline
