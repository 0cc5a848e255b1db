import Mathlib.Data.List.Basic
import SourceOutline.Grammar.Quoted

/-!
# Rows that tokens and layout pass

Every function that passes a part of the source leaves a rest of it and counts the line feeds
in front of that rest. So the row that it reaches and the rows still ahead are together never
more than before. For the next token this holds over comments and continued lines too, and the
rows of the comments ascend up to it.
-/

namespace SourceOutline.Grammar

open Text

/-- A rest of a text runs over no more rows than the text. -/
theorem rowsIn_le_of_suffix {rest text : List Char} (suffix : rest <:+ text) :
    rowsIn rest ≤ rowsIn text :=
  suffix.sublist.count_le '\n'

/-! ## Tokens -/

/-- What stands behind digits ends the text. -/
theorem skipDigits_suffix (isDigit : Char → Bool) (underscore : Bool) (text : List Char) :
    skipDigits isDigit underscore text <:+ text := by
  induction text generalizing underscore with
  | nil => exact List.suffix_refl _
  | cons c rest ih =>
    rw [skipDigits]
    split
    · exact (ih true).trans (List.suffix_cons c rest)
    · split
      · exact (ih false).trans (List.suffix_cons c rest)
      · exact List.suffix_refl _

/-- What stands behind an optional character ends the text. -/
theorem skipOne_suffix (options text : List Char) : skipOne options text <:+ text := by
  cases text with
  | nil => exact List.suffix_refl _
  | cons c rest =>
    rw [skipOne]
    split
    · exact List.suffix_cons c rest
    · exact List.suffix_refl _

/-- What stands behind an exponent ends the text. -/
theorem skipExponent_suffix (text : List Char) : skipExponent text <:+ text := by
  cases text with
  | nil => exact List.suffix_refl _
  | cons c rest =>
    rw [skipExponent]
    split
    · dsimp only
      split
      · exact (skipDigits_suffix _ _ _).trans
          ((skipOne_suffix _ rest).trans (List.suffix_cons c rest))
      · exact List.suffix_refl _
    · exact List.suffix_refl _

/-- What stands behind a decimal number ends the text. -/
theorem afterDecimal_suffix (text : List Char) : afterDecimal text <:+ text := by
  have digits := skipDigits_suffix Char.isDigit false text
  rw [afterDecimal]
  refine List.IsSuffix.trans ?_ digits
  generalize skipDigits Char.isDigit false text = rest
  dsimp only
  split
  · next fraction =>
    refine List.IsSuffix.trans ?_ (List.suffix_cons '.' fraction)
    refine (skipOne_suffix _ _).trans ((skipExponent_suffix _).trans ?_)
    split
    · exact skipDigits_suffix _ _ fraction
    · exact List.suffix_refl _
  · split
    · exact (skipOne_suffix _ _).trans (skipExponent_suffix _)
    · exact skipOne_suffix _ _

/-- What stands behind the digits of a base ends the text. -/
theorem skipBaseDigits_suffix (isDigit : Char → Bool) (text : List Char) :
    afterBase?.skipBaseDigits isDigit text <:+ text := by
  fun_induction afterBase?.skipBaseDigits isDigit text with
  | case1 => exact List.suffix_refl _
  | case2 c => exact List.nil_suffix
  | case3 c => exact List.suffix_refl _
  | case4 c d rest _ ih => exact ih.trans (List.suffix_cons c _)
  | case5 c d rest _ _ ih => exact ih.trans ((List.suffix_cons d rest).trans (List.suffix_cons c _))
  | case6 c d rest => exact skipOne_suffix _ _

/-- What stands behind a number in another base ends the text. -/
theorem afterBase?_suffix {isDigit : Char → Bool} {text rest : List Char}
    (found : afterBase? isDigit text = some rest) : rest <:+ text := by
  have digits := skipOne_suffix ['_'] text
  rw [afterBase?] at found
  split at found
  · split at found
    · obtain rfl := Option.some.inj found
      exact (skipBaseDigits_suffix isDigit _).trans (by simpa [*] using digits)
    · contradiction
  · contradiction

/-- What stands behind a number ends the text. -/
theorem afterNumber_suffix (text : List Char) : afterNumber text <:+ text := by
  have skipTwo (c d : Char) {rest tail : List Char} (suffix : rest <:+ tail) :
      rest <:+ c :: d :: tail :=
    suffix.trans ((List.suffix_cons d tail).trans (List.suffix_cons c _))
  unfold afterNumber
  extract_lets inBase
  cases based : inBase with
  | none => exact afterDecimal_suffix text
  | some rest =>
    unfold inBase at based
    split at based
    · repeat' split at based
      all_goals first | contradiction | exact skipTwo _ _ (afterBase?_suffix based)
    · contradiction

/-- What stands behind a token ends the text. -/
theorem tokenAt_suffix (text : List Char) : (tokenAt text).2 <:+ text := by
  cases text with
  | nil => exact List.suffix_refl _
  | cons c rest =>
    have behind := List.suffix_cons c rest
    unfold tokenAt
    dsimp only
    split
    · exact (List.drop_suffix _ rest).trans behind
    split
    · exact afterNumber_suffix (c :: rest)
    split
    · split
      · exact (List.suffix_cons _ _).trans (List.suffix_cons _ _)
      split
      · exact (List.suffix_cons _ _).trans (List.suffix_cons _ _)
      · exact behind
    · split
      · exact List.drop_suffix _ _
      · exact behind

/-- What stands behind the opening of a string ends the text. -/
theorem openingAt?_suffix {text rest : List Char} {opening : Opening}
    (found : openingAt? text = some (opening, rest)) : rest <:+ text := by
  rw [openingAt?] at found
  have flags := List.drop_suffix (text.takeWhile isStringFlag).length text
  dsimp only at found
  split at found
  · contradiction
  · next quote tail cut =>
    rw [cut] at flags
    split at found
    · obtain ⟨_, rfl⟩ := Prod.mk.inj (Option.some.inj found)
      refine List.IsSuffix.trans ?_ ((List.suffix_cons quote tail).trans flags)
      split
      · exact List.drop_suffix 2 tail
      · exact List.suffix_refl _
    · contradiction

/-! ## Blanks and comments -/

/-- A place further on in a text, with the row counted up to it. -/
structure Further (row : Nat) (text : List Char) (next : Nat) (rest : List Char) : Prop where
  /-- Rows are counted forward. -/
  forward : row ≤ next
  /-- No more rows are counted than there are. -/
  counted : next + rowsIn rest ≤ row + rowsIn text

namespace Further

/-- A place counts as further on than itself. -/
theorem refl (row : Nat) (text : List Char) : Further row text row text :=
  ⟨Nat.le_refl _, Nat.le_refl _⟩

/-- Two steps forward are a step forward. -/
theorem trans {row next last : Nat} {text rest tail : List Char}
    (first : Further row text next rest) (second : Further next rest last tail) :
    Further row text last tail :=
  ⟨Nat.le_trans first.forward second.forward, Nat.le_trans second.counted first.counted⟩

/-- In the same row, further on in the text. -/
theorem of_suffix (row : Nat) {text rest : List Char} (suffix : rest <:+ text) :
    Further row text row rest :=
  ⟨Nat.le_refl _, Nat.add_le_add_left (rowsIn_le_of_suffix suffix) row⟩

/-- Behind a line feed, in the next row. -/
theorem newline (row : Nat) (rest : List Char) : Further row ('\n' :: rest) (row + 1) rest := by
  refine ⟨Nat.le_succ row, ?_⟩
  rw [rowsIn, rowsIn, List.count_cons_self]
  omega

/-- Behind any other character. -/
theorem cons (row : Nat) (c : Char) (rest : List Char) : Further row (c :: rest) row rest :=
  of_suffix row (List.suffix_cons c rest)

/-- Behind the front of a text, with the rows of the front counted. -/
theorem append (row : Nat) (front rest : List Char) :
    Further row (front ++ rest) (row + rowsIn front) rest := by
  refine ⟨Nat.le_add_right row _, Nat.le_of_eq ?_⟩
  rw [rowsIn, rowsIn, rowsIn, List.count_append, Nat.add_assoc]

end Further

/-- Blanks, line breaks and comments are passed forward. -/
theorem pass_further (heeds : Bool) (row : Nat) (broken : Bool) (width : Nat) (comment : Option Nat)
    (inComment : Bool) (text : List Char) {passage : Passage}
    (found : pass heeds row broken width comment inComment text = some passage) :
    Further row text passage.row passage.rest := by
  fun_induction pass heeds row broken width comment inComment text with
  | case1 | case13 | case14 | case16 =>
    -- The passage ends here.
    obtain rfl := Option.some.inj found
    exact .of_suffix _ (by simp)
  | case10 | case15 => contradiction
  | case2 row _ _ _ rest ih | case5 row _ _ _ _ rest _ ih =>
    exact (Further.newline row rest).trans (ih found)
  | case3 row _ _ _ rest _ ih | case4 row _ _ _ _ rest _ _ ih | case6 row _ _ _ _ rest _ _ ih
  | case7 row _ _ _ _ rest _ _ _ ih | case8 row _ _ _ _ _ rest _ _ _ _ _ ih
  | case9 row _ _ _ _ rest _ _ _ _ _ _ ih =>
    exact (Further.cons row _ rest).trans (ih found)
  | case11 row _ _ _ _ _ tail _ _ _ _ _ ih =>
    exact (Further.cons row _ _).trans ((Further.newline row tail).trans (ih found))
  | case12 row _ _ _ _ _ tail _ _ _ _ _ ih =>
    exact (Further.cons row _ _).trans ((Further.cons row _ _).trans
      ((Further.newline row tail).trans (ih found)))

/-- Separators are passed forward. -/
theorem skipSeparators_further (row : Nat) (text : List Char) :
    Further row text (skipSeparators row text).2 (skipSeparators row text).1 := by
  induction text generalizing row with
  | nil => exact .refl row []
  | cons c rest ih =>
    rw [skipSeparators]
    split
    · by_cases feed : c = '\n'
      · rw [if_pos feed, feed]
        exact (Further.newline row rest).trans (ih (row + 1))
      · rw [if_neg feed]
        exact (Further.cons row c rest).trans (ih row)
    · exact .refl row _

/-- What stands behind separators ends the text. -/
theorem skipSeparators_suffix (row : Nat) (text : List Char) :
    (skipSeparators row text).1 <:+ text := by
  induction text generalizing row with
  | nil => exact List.suffix_refl _
  | cons c rest ih =>
    rw [skipSeparators]
    split
    · exact (ih _).trans (List.suffix_cons c rest)
    · exact List.suffix_refl _

/-- What stands behind a comment ends the text. -/
theorem afterComment_suffix (text : List Char) : afterComment text <:+ text :=
  List.dropWhile_suffix _

/-! ## The next token -/

/-- A token of layout stands where the text does, and a string behind what was passed. -/
theorem layoutAt?_further {expect : Expect} {layout : Layout} {text : List Char} {row : Nat}
    {gap : Gap} {located : Located} (found : layoutAt? expect layout text row gap = some located) :
    Further row text located.row located.rest := by
  rw [layoutAt?] at found
  split at found
  · contradiction
  · next passage passed =>
    have behind := pass_further _ _ _ _ _ _ _ passed
    split at found
    · obtain rfl := Option.some.inj found
      exact .refl row text
    · split at found
      · contradiction
      · obtain ⟨⟨opening, rest⟩, opened, rfl⟩ := Option.map_eq_some_iff.mp found
        exact behind.trans (.of_suffix _ (openingAt?_suffix opened))

/-- The next token stands further on. -/
theorem next_further (expect : Expect) (layout : Layout) (text : List Char) (row : Nat)
    (gap : Gap) :
    Further row text (next expect layout text row gap).row
      (next expect layout text row gap).rest := by
  have reached := skipSeparators_further row text
  fun_induction next expect layout text row gap with
  | case1 text row gap located found => exact layoutAt?_further found
  | case2 text row gap none tail found skipped ih =>
    rw [skipped] at reached
    have behind := Further.of_suffix found
      ((afterComment_suffix tail).trans (List.suffix_cons '#' tail))
    exact reached.trans (behind.trans (ih (skipSeparators_further _ _)))
  | case3 text row gap none tail found skipped ih =>
    rw [skipped] at reached
    have behind := (Further.cons found '\\' _).trans (.newline found tail)
    exact reached.trans (behind.trans (ih (skipSeparators_further _ _)))
  | case4 text row gap none tail found skipped ih =>
    rw [skipped] at reached
    have behind := (Further.cons found '\\' _).trans
      ((Further.cons found '\r' _).trans (.newline found tail))
    exact reached.trans (behind.trans (ih (skipSeparators_further _ _)))
  | case5 text row gap none found skipped ih =>
    rw [skipped] at reached
    have behind := Further.cons found '\\' []
    exact reached.trans (behind.trans (ih (skipSeparators_further _ _)))
  | case6 text row gap none here found _ _ _ _ skipped token rest taken =>
    rw [skipped] at reached
    have suffix := tokenAt_suffix here
    rw [taken] at suffix
    exact reached.trans (.of_suffix found suffix)

/-- The gap in front of a token of layout or a string is the one given. -/
theorem layoutAt?_gap {expect : Expect} {layout : Layout} {text : List Char} {row : Nat}
    {gap : Gap} {located : Located} (found : layoutAt? expect layout text row gap = some located) :
    located.gap = gap := by
  rw [layoutAt?] at found
  split at found
  · contradiction
  · split at found
    · obtain rfl := Option.some.inj found
      rfl
    · split at found
      · contradiction
      · obtain ⟨_, _, rfl⟩ := Option.map_eq_some_iff.mp found
        rfl

/-- A continued line in front of the next token goes on between the row given and the row of the
token, if it does in the gap given. -/
theorem next_continued (expect : Expect) (layout : Layout) (text : List Char) (row : Nat)
    (gap : Gap) {start : Nat} (begun : start ≤ row)
    (inside : ∀ mark ∈ gap.continued, start ≤ mark ∧ mark ≤ row) :
    ∀ mark ∈ (next expect layout text row gap).gap.continued,
      start ≤ mark ∧ mark ≤ (next expect layout text row gap).row := by
  have reached := (skipSeparators_further row text).forward
  fun_induction next expect layout text row gap with
  | case1 text row gap located found =>
    rw [layoutAt?_gap found]
    have forward := (layoutAt?_further found).forward
    exact fun mark listed =>
      ⟨(inside mark listed).1, Nat.le_trans (inside mark listed).2 forward⟩
  | case2 text row gap none tail found skipped ih =>
    rw [skipped] at reached
    refine ih (Nat.le_trans begun reached) ?_ (skipSeparators_further _ _).forward
    exact fun mark listed =>
      ⟨(inside mark listed).1, Nat.le_trans (inside mark listed).2 reached⟩
  | case3 text row gap none tail found skipped ih | case4 text row gap none tail found skipped ih =>
    rw [skipped] at reached
    refine ih (by omega) ?_ (skipSeparators_further _ _).forward
    rintro mark ⟨⟩
    omega
  | case5 text row gap none found skipped ih =>
    rw [skipped] at reached
    refine ih (by omega) ?_ (skipSeparators_further _ _).forward
    rintro mark ⟨⟩
    omega
  | case6 text row gap none here found _ _ _ _ skipped token rest taken =>
    rw [skipped] at reached
    exact fun mark listed =>
      ⟨(inside mark listed).1, Nat.le_trans (inside mark listed).2 reached⟩

/-- Behind a token, a line goes on at its row, or where it is continued, and the next token stands
behind that. -/
theorem next_mark (expect : Expect) (layout : Layout) (text : List Char) (row : Nat) :
    row ≤ (next expect layout text row {}).gap.continued.getD row ∧
      (next expect layout text row {}).gap.continued.getD row ≤
        (next expect layout text row {}).row := by
  have inside := next_continued expect layout text row {} (Nat.le_refl row) (by simp)
  cases found : (next expect layout text row {}).gap.continued with
  | none => exact ⟨Nat.le_refl row, (next_further expect layout text row {}).forward⟩
  | some mark => exact inside mark found

/-! ## Pieces of a string -/

/-- Behind the character that ends a run, with the rows of the run counted. -/
theorem takeWhile_further (row : Nat) (text : List Char) (keep : Char → Bool) {ended : Char}
    {rest : List Char} (cut : text.drop (text.takeWhile keep).length = ended :: rest) :
    Further row text (row + rowsIn (text.takeWhile keep)) rest := by
  have whole : text.takeWhile keep ++ ended :: rest = text := by
    rw [← cut, ← List.prefix_iff_eq_append]
    exact List.takeWhile_prefix keep
  have passed := Further.append row (text.takeWhile keep) (ended :: rest)
  rw [whole] at passed
  exact passed.trans (.cons _ ended rest)

/-- What stands in front of a rest of a text and the rest are the text. -/
theorem take_append_of_suffix {rest text : List Char} (suffix : rest <:+ text) :
    text.take (text.length - rest.length) ++ rest = text := by
  obtain ⟨front, rfl⟩ := suffix
  simp

/-- What is taken of a string and what is left make the text, if a piece is found. -/
theorem contentAt?_append (opening : Opening) (full : Bool) (taken text : List Char) {piece : Piece}
    (found : contentAt? opening full taken text = some piece) :
    piece.taken ++ piece.rest = taken.reverse ++ text := by
  fun_induction contentAt? opening full taken text <;> grind [List.take_append_drop]

/-- A piece of a string and what is left make the text. -/
theorem piece_append (text : List Char) : (piece text).taken ++ (piece text).rest = text := by
  have found := skipSeparators_suffix 0 text
  unfold piece
  split
  · simp
  · dsimp only
    split
    · next rest brace =>
      rw [brace] at found
      exact take_append_of_suffix ((List.suffix_cons _ _).trans found)
    · next rest comment =>
      rw [comment] at found
      exact take_append_of_suffix
        ((afterComment_suffix rest).trans ((List.suffix_cons _ _).trans found))
    · next rest continued =>
      rw [continued] at found
      exact take_append_of_suffix
        ((List.suffix_cons _ _).trans ((List.suffix_cons _ _).trans found))
    · next rest continued =>
      rw [continued] at found
      exact take_append_of_suffix ((List.suffix_cons _ _).trans
        ((List.suffix_cons _ _).trans ((List.suffix_cons _ _).trans found)))
    · rfl

/-- The piece in front and what stands behind it are the text. -/
theorem pieceAt_append (opening : Opening) (text : List Char) :
    (pieceAt opening text).taken ++ (pieceAt opening text).rest = text := by
  fun_cases pieceAt opening text with
  | case1 | case2 | case3 | case4 => rfl
  | case5 =>
    cases found : contentAt? opening false [] text with
    | none => exact piece_append text
    | some piece => exact contentAt?_append opening false [] text found

/-- Behind a piece, with the rows of the piece counted. -/
theorem pieceAt_further (opening : Opening) (row : Nat) (text : List Char) :
    Further row text (row + rowsIn (pieceAt opening text).taken) (pieceAt opening text).rest := by
  simpa only [pieceAt_append] using
    Further.append row (pieceAt opening text).taken (pieceAt opening text).rest

end SourceOutline.Grammar
