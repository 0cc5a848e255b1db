import SourceOutline.Grammar.Token

/-!
# Line breaks and indentation

Whether a line break or a change of indentation is a token depends on what may follow: the
reader tells what it expects, and the layout answers with at most one token of no width.
-/

namespace SourceOutline.Grammar

/-- Which tokens of layout may come next, and whether a closing bracket may. -/
structure Expect where
  newline : Bool := false
  indent : Bool := false
  dedent : Bool := false
  closer : Bool := false
  deriving DecidableEq, Repr

/-- A comment ends a line only where layout may come next. -/
def Expect.heedsComments (expect : Expect) : Bool :=
  expect.newline || expect.indent || expect.dedent

/-- What is open at a place of the source. -/
structure Layout where
  /-- The widths of the enclosing blocks, innermost first. -/
  widths : List Nat := [0]
  /-- The string opened last is still open and holds expressions. -/
  insideFormat : Bool := false
  deriving DecidableEq, Repr

/-- The width of the current block. -/
def Layout.width (layout : Layout) : Nat := layout.widths.headD 0

/-- The first token behind blanks and what was passed on the way. -/
structure Passage where
  /-- From the next token on. -/
  rest : List Char
  /-- The row of the next token. -/
  row : Nat
  /-- A line break was passed. -/
  broken : Bool
  /-- The indentation of the next token. -/
  width : Nat
  /-- The indentation of the first comment passed. -/
  comment : Option Nat
  deriving Repr

/-- Passes blanks, line breaks and, where they are heeded, comments on lines of their own.
There is no passage over a comment behind code, nor over a backslash inside a line. -/
def pass (heeds : Bool) (row : Nat) (broken : Bool) (width : Nat) (comment : Option Nat)
    (inComment : Bool) : List Char → Option Passage
  | [] => some ⟨[], row, true, 0, comment⟩
  | c :: rest =>
    if inComment then
      if c = '\n' then pass heeds (row + 1) broken 0 comment false rest
      else if c = '\x00' then pass heeds row broken 0 comment false rest
      else pass heeds row broken width comment true rest
    else if c = '\n' then pass heeds (row + 1) true 0 comment false rest
    else if c = ' ' then pass heeds row broken (width + 1) comment false rest
    else if c = '\t' then pass heeds row broken (width + 8) comment false rest
    else if c = '\r' ∨ c = '\x0c' then pass heeds row broken 0 comment false rest
    else if c = '#' ∧ heeds then
      if broken then pass heeds row broken width (comment.or (some width)) true rest else none
    else if c = '\\' then
      match rest with
      | '\n' :: tail => pass heeds (row + 1) broken width comment false tail
      | '\r' :: '\n' :: tail => pass heeds (row + 1) broken width comment false tail
      | [] | ['\r'] => some ⟨[], row, true, 0, comment⟩
      | _ => none
    else some ⟨c :: rest, row, broken, width, comment⟩

/-- A quote stands in front. -/
def startsQuote : List Char → Bool
  | c :: _ => c == '"' || c == '\'' || c == '`'
  | [] => false

/-- A block ends before the next token. An end that nothing expects is reported too, unless
a bracket may still be closed there or a string goes on. -/
def Passage.endsBlock (passage : Passage) (expect : Expect) (layout : Layout) : Bool :=
  (expect.dedent || (!expect.newline && !startsQuote passage.rest && !expect.closer)) &&
    passage.width < layout.width && !layout.insideFormat &&
    passage.comment.all (· < layout.width)

/-- The token of layout before the next token of text, and the layout behind it. -/
def Passage.token? (passage : Passage) (expect : Expect) (layout : Layout) :
    Option (Token × Layout) :=
  if !passage.broken then none
  else if expect.indent && layout.width < passage.width then
    some (.indent, { layout with widths := passage.width :: layout.widths })
  else if passage.endsBlock expect layout then
    some (.dedent, { layout with widths := layout.widths.drop 1 })
  else if expect.newline then some (.newline, layout)
  else none

/-- What stands between two tokens besides blanks. -/
structure Gap where
  /-- The rows of the comments. -/
  comments : List Nat := []
  /-- The row on which a line goes on behind the last backslash that continues one. -/
  continued : Option Nat := none
  deriving DecidableEq, Repr

/-- The gap with a comment behind it. -/
def Gap.addComment (gap : Gap) (row : Nat) : Gap := { gap with comments := gap.comments ++ [row] }

/-- The gap with a continued line behind it, which goes on at a row. -/
def Gap.continueAt (gap : Gap) (row : Nat) : Gap := { gap with continued := some row }

/-- A token in its place. -/
structure Located where
  token : Token
  /-- From the token on. -/
  here : List Char
  /-- Behind the token. -/
  rest : List Char
  /-- The row of the token. -/
  row : Nat
  /-- The layout behind the token. -/
  layout : Layout
  /-- What stands in front of the token. -/
  gap : Gap

/-- Drops separators and counts the rows passed. -/
def skipSeparators (row : Nat) : List Char → List Char × Nat
  | [] => ([], row)
  | c :: rest =>
    if isSeparator c then skipSeparators (if c = '\n' then row + 1 else row) rest
    else (c :: rest, row)

/-- What stands behind a comment. -/
def afterComment (text : List Char) : List Char :=
  text.dropWhile fun c => c != '\n' && c != '\x00'

/-- Dropping separators leaves a text that is no longer. -/
theorem length_skipSeparators_le (row : Nat) (text : List Char) :
    (skipSeparators row text).1.length ≤ text.length := by
  induction text generalizing row with
  | nil => simp [skipSeparators]
  | cons c rest ih =>
    unfold skipSeparators
    split
    · exact Nat.le_succ_of_le (ih _)
    · exact Nat.le_refl _

/-- What stands behind a comment is no longer than the text. -/
theorem length_afterComment_le (text : List Char) : (afterComment text).length ≤ text.length :=
  (List.dropWhile_sublist _).length_le

/-- The layout token or string in front of a text, when there is one. -/
def layoutAt? (expect : Expect) (layout : Layout) (text : List Char) (row : Nat)
    (gap : Gap) : Option Located :=
  match pass expect.heedsComments row false 0 none false text with
  | none => none
  | some passage =>
    match passage.token? expect layout with
    | some (token, layout) => some ⟨token, text, text, row, layout, gap⟩
    | none =>
      if passage.comment.isSome then none
      else
        (openingAt? passage.rest).map fun (opening, rest) =>
          ⟨.quote opening, passage.rest, rest, passage.row,
            { layout with insideFormat := opening.format }, gap⟩

/-- The next token, behind a gap that is read so far. Behind each comment and each continued
line the layout is asked again. -/
def next (expect : Expect) (layout : Layout) (text : List Char) (row : Nat) (gap : Gap) :
    Located :=
  match layoutAt? expect layout text row gap with
  | some located => located
  | none =>
    match skipped : skipSeparators row text with
    | ('#' :: tail, found) => next expect layout (afterComment tail) found (gap.addComment found)
    | ('\\' :: '\n' :: tail, found) =>
      next expect layout tail (found + 1) (gap.continueAt (found + 1))
    | ('\\' :: '\r' :: '\n' :: tail, found) =>
      next expect layout tail (found + 1) (gap.continueAt (found + 1))
    | (['\\'], found) => next expect layout [] found (gap.continueAt found)
    | (here, found) =>
      let (token, rest) := tokenAt here
      ⟨token, here, rest, found, layout, gap⟩
termination_by text.length
decreasing_by
  all_goals
    have shorter := length_skipSeparators_le row text
    rw [skipped] at shorter
    simp only [List.length_cons] at shorter
  · have behind := length_afterComment_le tail
    omega
  · omega
  · omega
  · simp only [List.length_nil] at *
    omega

end SourceOutline.Grammar
