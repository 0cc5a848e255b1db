import SourceOutline.Proofs.Outline.Offers

/-!
# Line comments above a function

The summary of a function is taken from the comment above it, with attributes in between. A run of
line comments gives the first of its lines that has any text, whatever stands above the run and
whatever the comments say, with one exception. In a style with block comments, a line comment that
ends like a block comment is read as one, and the summary is then taken from what stands behind the
nearest opening of a block comment.
-/

namespace SourceOutline.Outline

open Text

/-! ## Runs of line comments -/

/-- The text of a line comment without tags. -/
def commentText (style : CommentStyle) (line : Line) : List Char :=
  cleanComment ((lineComment? style line).getD [])

/-- Lines that end in a run of line comments, with attributes below it. -/
structure CommentsAbove (style : CommentStyle) (lines : List Line) where
  /-- What stands above the run. -/
  higher : List Line
  /-- The run up to its last line. -/
  run : List Line
  /-- The last line of the run. -/
  comment : Line
  /-- The lines below the run. -/
  attributes : List Line
  /-- There are no other lines. -/
  whole : lines = higher ++ run ++ comment :: attributes
  /-- The lines below the run are attributes. -/
  skipped : ∀ line ∈ attributes, isAttribute (trim line) = true
  /-- The last line of the run is none. -/
  nearest : isAttribute (trim comment) = false
  /-- The lines of the run are line comments. -/
  comments : ∀ line ∈ run ++ [comment], (lineComment? style line).isSome
  /-- The line above the run is none. -/
  maximal : ∀ line ∈ higher.getLast?, lineComment? style line = none

namespace CommentsAbove

variable {style : CommentStyle} {lines : List Line}

/-- The first line of the run that has any text has this one. -/
def IsFirstText (above : CommentsAbove style lines) (text : List Char) : Prop :=
  text ≠ [] ∧ ∃ early line late, above.run ++ [above.comment] = early ++ line :: late ∧
    (∀ other ∈ early, commentText style other = []) ∧ commentText style line = text

/-- The run ends like a block comment, in a style that has them. -/
def EndsLikeBlock (above : CommentsAbove style lines) : Prop :=
  style.block = true ∧ "*/".toList <:+ trim above.comment

/-- The text of the block comment that is read in place of the run. -/
def blockText? (above : CommentsAbove style lines) : Option (List Char) :=
  (blockLines? (above.higher ++ above.run ++ [above.comment]).reverse).bind fun block =>
    blockSummary? (joinLines block)

/-- The lines from the run upwards. -/
theorem reverse_eq (above : CommentsAbove style lines) :
    lines.reverse.dropWhile (fun line => isAttribute (trim line)) =
      above.comment :: (above.run.reverse ++ above.higher.reverse) := by
  have cut : lines.reverse = above.attributes.reverse ++
      above.comment :: (above.run.reverse ++ above.higher.reverse) :=
    (congrArg List.reverse above.whole).trans (by simp)
  rw [cut, List.dropWhile_append_of_pos fun line listed =>
      above.skipped line (List.mem_reverse.mp listed),
    List.dropWhile_cons_of_neg (by simp [above.nearest])]

/-- The run that is read is the whole run. -/
theorem commentRun_eq (above : CommentsAbove style lines) :
    (commentRun style (above.comment :: (above.run.reverse ++ above.higher.reverse))).map
      cleanComment = (above.run ++ [above.comment]).map (commentText style) := by
  have stops : above.higher.reverse.takeWhile (fun line => (lineComment? style line).isSome) =
      [] := by
    have maximal := above.maximal
    rw [← List.head?_reverse] at maximal
    cases upwards : above.higher.reverse with
    | nil => rfl
    | cons line _ =>
      rw [upwards] at maximal
      exact List.takeWhile_cons_of_neg (by simp [maximal line rfl])
  have taken : (above.comment :: (above.run.reverse ++ above.higher.reverse)).takeWhile
      (fun line => (lineComment? style line).isSome) = (above.run ++ [above.comment]).reverse := by
    rw [← List.cons_append, List.takeWhile_append_of_pos, stops]
    · simp
    · intro line listed
      exact above.comments line (by simpa [or_comm] using listed)
  have texts : (above.run ++ [above.comment]).filterMap (lineComment? style) =
      (above.run ++ [above.comment]).map fun line => (lineComment? style line).getD [] := by
    rw [← List.filterMap_eq_map]
    refine List.filterMap_congr fun line listed => ?_
    obtain ⟨text, found⟩ := Option.isSome_iff_exists.mp (above.comments line listed)
    rw [Function.comp_apply, found, Option.getD_some]
  rw [commentRun, taken, List.filterMap_reverse, List.reverse_reverse, texts, List.map_map]
  rfl

/-- The documentation is the first text of the run, or that of a block comment if the run ends like
one. -/
theorem docComment?_eq (above : CommentsAbove style lines) {text : List Char}
    (first : above.IsFirstText text) :
    (¬ above.EndsLikeBlock → docComment? style lines.reverse = some text) ∧
    (above.EndsLikeBlock → docComment? style lines.reverse = above.blockText?) := by
  rw [docComment?, above.reverse_eq]
  constructor
  · intro plain
    obtain ⟨filled, early, line, late, cut, empty, own⟩ := first
    have condition : ¬ (style.block && "*/".toList.isSuffixOf (trim above.comment)) = true := by
      simpa [EndsLikeBlock] using plain
    refine (if_neg condition).trans ?_
    rw [above.commentRun_eq, cut, List.find?_eq_some_iff_append]
    refine ⟨by simpa using filled, early.map (commentText style), late.map (commentText style),
      by rw [List.map_append, List.map_cons, own], ?_⟩
    intro other listed
    obtain ⟨upper, before, rfl⟩ := List.mem_map.mp listed
    simp [empty upper before]
  · intro block
    have condition : (style.block && "*/".toList.isSuffixOf (trim above.comment)) = true := by
      simpa [EndsLikeBlock] using block
    refine (if_pos condition).trans ?_
    rw [blockText?, List.reverse_append, List.reverse_append]
    rfl

end CommentsAbove

/-! ## Summaries from line comments -/

/-- A summary is the documentation above the line just when there is any. -/
theorem Offer.record_summary_iff (table : Table) (window : Nat) (lines : List Line) (offer : Offer)
    (text : List Char) :
    (offer.record table window lines).summarySource = .docComment ∧
      (offer.record table window lines).summary = String.ofList text ↔
    docComment? table.comments (lines.take offer.index).reverse = some text := by
  rcases offer.record_summary table window lines with
    ⟨other, found, source, same⟩ | ⟨missing, source, _⟩
  · rw [source, same, found, String.ofList_inj, Option.some_inj]
    exact and_iff_right rfl
  · rw [source, missing]
    simp

/-- For every language with line patterns, every window, every source and every function that is
found below a run of line comments, with attributes in between: if the run does not end like a block
comment, the summary is the first text of the run. If it does, the summary is this text just when
the block comment that is read in place of the run has it. -/
theorem byLine_summary_of_line_comments {language : Language} {table : Table}
    (known : Table.forLanguage? language = some table) {window : Nat} {source : List Char}
    {record : FunctionRecord} (listed : record ∈ (byLine language window source).functions)
    (above : CommentsAbove table.comments ((splitLines source).take (record.startLine - 1)))
    {text : List Char} (first : above.IsFirstText text) :
    (¬ above.EndsLikeBlock →
      record.summarySource = .docComment ∧ record.summary = String.ofList text) ∧
    (above.EndsLikeBlock →
      (record.summarySource = .docComment ∧ record.summary = String.ofList text ↔
        above.blockText? = some text)) := by
  have shown := readLines_shows_firstOffers table (max window 1) (splitLines source)
  simp only [byLine, known, byTable, shown.functions] at listed
  obtain ⟨offer, _, rfl⟩ := List.mem_map.mp listed
  obtain ⟨plain, block⟩ := above.docComment?_eq first
  rw [Offer.record_summary_iff]
  refine ⟨plain, fun ends => ?_⟩
  rw [← block ends]
  exact Iff.rfl

/-- Line comments that mention openings and ends of block comments, the first without a text, below
a line that ends in a block comment. -/
def globbedSource : List Char :=
  joinLines ["let x = 1; /* old */".toList, "//".toList,
    "/// Reads <b>src/*</b> and */*.rs".toList, "// of a tree".toList, "#[inline]".toList,
    "fn read(a: i32) \x7b\x7d".toList]

/-- The lines above the function. -/
def globbedComments : CommentsAbove Table.rust.comments ((splitLines globbedSource).take 5) where
  higher := ["let x = 1; /* old */".toList]
  run := ["//".toList, "/// Reads <b>src/*</b> and */*.rs".toList]
  comment := "// of a tree".toList
  attributes := ["#[inline]".toList]
  whole := by decide +kernel
  skipped := by decide +kernel
  nearest := by decide +kernel
  comments := by decide +kernel
  maximal := by decide +kernel

/-- The summary is the second comment. -/
theorem byLine_globbedSource :
    ¬ globbedComments.EndsLikeBlock ∧
    globbedComments.IsFirstText "Reads src/* and */*.rs".toList ∧
    ∃ record ∈ (byLine .rust 20 globbedSource).functions, record.startLine = 6 ∧
      record.summarySource = .docComment ∧ record.summary = "Reads src/* and */*.rs" := by
  have plain : ¬ globbedComments.EndsLikeBlock := fun ends => absurd ends.2 (by decide +kernel)
  have first : globbedComments.IsFirstText "Reads src/* and */*.rs".toList :=
    ⟨by decide, ["//".toList], "/// Reads <b>src/*</b> and */*.rs".toList, ["// of a tree".toList],
      by decide +kernel, by decide +kernel, by decide +kernel⟩
  have place : 6 ∈ (byLine .rust 20 globbedSource).functions.map (·.startLine) := by decide +kernel
  obtain ⟨⟨name, summary, origin, slice, startLine, endLine⟩, listed, start⟩ :=
    List.mem_map.mp place
  obtain rfl : startLine = 6 := start
  exact ⟨plain, first, _, listed, rfl,
    (byLine_summary_of_line_comments rfl listed globbedComments first).1 plain⟩

/-- A line comment that ends like a block comment. -/
def globSource : List Char := "// Cleans src/*/\nfn f(a: i32) \x7b\x7d".toList

/-- The comment above the function. -/
def globComment : CommentsAbove Table.rust.comments ((splitLines globSource).take 1) where
  higher := []
  run := []
  comment := "// Cleans src/*/".toList
  attributes := []
  whole := by decide +kernel
  skipped := nofun
  nearest := by decide +kernel
  comments := by decide +kernel
  maximal := nofun

/-- The comment has a text, but the summary is what stands behind the opening of a block. -/
theorem byLine_globSource :
    globComment.IsFirstText "Cleans src/*/".toList ∧
    (byLine .rust 20 globSource).functions.map
      (fun record => (record.startLine, record.summarySource, record.summary)) =
        [(2, .docComment, "/")] :=
  ⟨⟨by decide, [], "// Cleans src/*/".toList, [], by decide +kernel, nofun, by decide +kernel⟩,
    by decide +kernel⟩

end SourceOutline.Outline
