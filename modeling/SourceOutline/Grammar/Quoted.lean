import SourceOutline.Grammar.Layout

/-!
# Inside string literals

Behind its opening a string is cut into pieces: content, expressions in braces, and the
closing quotes.
-/

namespace SourceOutline.Grammar

/-- What a piece of a string is. -/
inductive PieceKind where
  | content
  /-- The closing quotes. -/
  | close
  /-- The brace in front of an expression. -/
  | brace
  /-- Blanks and comments that are no content. -/
  | gap
  /-- Nothing that may stand in a string. -/
  | broken
  deriving DecidableEq, Repr

/-- A piece of a string. -/
structure Piece where
  kind : PieceKind
  /-- The characters of the piece. -/
  taken : List Char
  /-- What stands behind it. -/
  rest : List Char
  deriving Repr

/-- How many characters a raw string passes together with a backslash. -/
def rawEscape (quote : Char) (rest : List Char) : Nat :=
  let first :=
    match rest with
    | c :: _ => if c = quote ∨ c = '\\' then 1 else 0
    | [] => 0
  match rest.drop first with
  | '\r' :: '\n' :: _ => first + 2
  | '\r' :: _ => first + 1
  | '\n' :: _ => first + 1
  | _ => first

/-- Letters that start no escape in bytes. -/
def isTextEscape (c : Char) : Bool := c == 'N' || c == 'u' || c == 'U'

/-- The longest content in front, or the closing quotes when there is none. `full` tells
that content was taken already. A line break ends the search in a string of one line. -/
def contentAt? (opening : Opening) (full : Bool) (taken : List Char) : List Char → Option Piece
  | [] => none
  | c :: rest =>
    let soFar := if full then some ⟨.content, taken.reverse, c :: rest⟩ else none
    if c = '\x00' then none
    else if opening.format && (c == '\x7b' || c == '\x7d') then soFar
    else if c = '\\' then
      if opening.raw then
        let length := rawEscape opening.quote rest
        contentAt? opening full ((rest.take length).reverse ++ c :: taken) (rest.drop length)
      else if opening.bytes then
        match rest with
        | letter :: next :: tail =>
          if isTextEscape letter then
            contentAt? opening true (next :: letter :: c :: taken) tail
          else soFar
        | [letter] => if isTextEscape letter then none else soFar
        | [] => soFar
      else soFar
    else if c = opening.quote then
      if opening.triple then
        match rest with
        | second :: third :: tail =>
          if second = c ∧ third = c then
            if full then soFar
            else some ⟨.close, (third :: second :: c :: taken).reverse, tail⟩
          else if second = c then
            some ⟨.content, (second :: c :: taken).reverse, third :: tail⟩
          else some ⟨.content, (c :: taken).reverse, rest⟩
        | [second] =>
          if second = c then some ⟨.content, (second :: c :: taken).reverse, []⟩
          else some ⟨.content, (c :: taken).reverse, rest⟩
        | [] => some ⟨.content, (c :: taken).reverse, []⟩
      else if full then soFar
      else some ⟨.close, (c :: taken).reverse, rest⟩
    else if c = '\n' ∧ full ∧ !opening.triple then none
    else contentAt? opening true (c :: taken) rest
termination_by text => text.length
decreasing_by
  all_goals simp_wf
  all_goals omega

/-- How many characters behind a backslash belong to its escape. -/
def escapeLength : List Char → Nat
  | '\'' :: _ | '"' :: _ | '\\' :: _ | '\n' :: _ => 1
  | '\r' :: '\n' :: _ => 2
  | 'N' :: '\x7b' :: rest =>
    let name := rest.takeWhile (· != '\x7d')
    if name.isEmpty || name.length == rest.length then 0 else name.length + 3
  | _ => 0

/-- The piece in front where there is no content to take: an escape, or a brace or comment
behind blanks. -/
def piece (text : List Char) : Piece :=
  match text with
  | '\\' :: rest =>
    let length := escapeLength rest
    ⟨.content, '\\' :: rest.take length, rest.drop length⟩
  | _ =>
    let found := (skipSeparators 0 text).1
    let upTo (rest : List Char) := text.take (text.length - rest.length)
    match found with
    | '\x7b' :: rest => ⟨.brace, upTo rest, rest⟩
    | '#' :: rest => ⟨.gap, upTo (afterComment rest), afterComment rest⟩
    | '\\' :: '\n' :: rest => ⟨.gap, upTo rest, rest⟩
    | '\\' :: '\r' :: '\n' :: rest => ⟨.gap, upTo rest, rest⟩
    | _ => ⟨.broken, [], text⟩

/-- The piece in front of the rest of a string. -/
def pieceAt (opening : Opening) (text : List Char) : Piece :=
  match opening.format, text with
  | true, '\x7b' :: '\x7b' :: rest => ⟨.content, ['\x7b', '\x7b'], rest⟩
  | true, '\x7d' :: '\x7d' :: rest => ⟨.content, ['\x7d', '\x7d'], rest⟩
  | true, '\x7b' :: rest => ⟨.brace, ['\x7b'], rest⟩
  | true, '\x7d' :: _ => ⟨.broken, [], text⟩
  | _, _ => (contentAt? opening false [] text).getD (piece text)

/-- The rows that a text runs over. -/
def rowsIn (text : List Char) : Nat := text.count '\n'

end SourceOutline.Grammar
