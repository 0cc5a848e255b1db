import SourceOutline.Prompt
import SourceOutline.Proofs.Text.CodeLines
import SourceOutline.Proofs.Text.Search

/-!
# Code fences

A text that begins and ends with the mark of a fence is taken for a fence, and what is left of it is
the code behind the line of the first mark, or all of it if there is one line. Any other text is
left as it is. So code that is put into a fence is what is left of the fence, without line feeds
around it and whatever marks it has itself (`stripFence_undoes_fence`), and nothing but blanks is
left of a text that is not blank just where it is a fence with nothing inside
(`isBlankText_stripFence_iff`).
-/

namespace SourceOutline

open Text

/-! ## What is left of a fence -/

/-- The code of a fence stands behind its first line. -/
theorem fencedCode_of_lines {info : List Char} (noFeed : '\n' ∉ info) (code : List Char) :
    fencedCode (info ++ '\n' :: code) = trimLineFeeds code := by
  rw [fencedCode, cutAt?_char_append noFeed]

/-- A fence on one line has only code. -/
theorem fencedCode_of_line {body : List Char} (noFeed : '\n' ∉ body) :
    fencedCode body = trim body := by
  rw [fencedCode, cutAt?_char_eq_none noFeed]

/-- The code between two marks is taken out. -/
theorem stripFence_of_fence {output body : List Char}
    (fenced : trim output = fenceMark ++ (body ++ fenceMark)) :
    stripFence output = fencedCode body := by
  have starts : fenceMark.isPrefixOf (fenceMark ++ (body ++ fenceMark)) = true :=
    List.isPrefixOf_iff_prefix.mpr (List.prefix_append _ _)
  simp only [stripFence, fenced, if_pos starts, List.drop_left, dropEnding?_append]

/-- A text that is not between two marks is left as it is. -/
theorem stripFence_of_not_fence {output : List Char}
    (plain : ∀ body, trim output ≠ fenceMark ++ (body ++ fenceMark)) :
    stripFence output = trim output := by
  simp only [stripFence]
  split
  next starts =>
    obtain ⟨rest, cut⟩ := List.isPrefixOf_iff_prefix.mp starts
    split
    next body dropped =>
      have ends := eq_of_dropEnding? dropped
      rw [← cut, List.drop_left] at ends
      exact absurd (cut.symm.trans (congrArg (fenceMark ++ ·) ends)) (plain body)
    · rfl
  · rfl

/-! ## Code put into a fence -/

/-- A fence around code, with a text behind the first mark. -/
def fence (info code : List Char) : List Char :=
  fenceMark ++ (info ++ '\n' :: (code ++ '\n' :: fenceMark))

/-- A fence stands between its marks. -/
theorem fence_eq (info code : List Char) :
    fence info code = fenceMark ++ ((info ++ '\n' :: (code ++ ['\n'])) ++ fenceMark) := by
  simp [fence]

/-- Blanks around a fence are all that trimming takes away. -/
theorem trims_fence {front back : List Char} (blankFront : isBlankText front = true)
    (blankBack : isBlankText back = true) (info code : List Char) :
    Trims (front ++ (fence info code ++ back)) (fence info code) := by
  refine ⟨⟨front, back, rfl, List.all_eq_true.mp blankFront, List.all_eq_true.mp blankBack⟩, ?_, ?_⟩
  · intro c first
    have mark : c = '`' := by simpa [fence, fenceMark, eq_comm] using first
    rw [mark]
    decide
  · intro c last
    have mark : c = '`' := by
      rw [fence_eq, ← List.append_assoc, List.getLast?_append] at last
      simpa [fenceMark, eq_comm] using last
    rw [mark]
    decide

/-- A line feed behind the code of a fence is none of the code. -/
theorem trimLineFeeds_concat (code : List Char) :
    trimLineFeeds (code ++ ['\n']) = trimLineFeeds code := by
  obtain ⟨⟨front, back, cut, inFront, behind⟩, starts, stops⟩ :=
    strips_iff.mpr (show trimLineFeeds code = _ from rfl)
  refine (strips_iff.mp ⟨⟨front, back ++ ['\n'], ?_, inFront, ?_⟩, starts, stops⟩).symm
  · conv_lhs => rw [cut]
    simp
  · intro c member
    rcases List.mem_append.mp member with earlier | last
    · exact behind c earlier
    · simpa using last

/-- Code in a fence with any blanks around it is what is left, without the line feeds around the
code and with all else that stands in it, be it marks of a fence. A text that is not between two
marks is left as it is without the blanks around it. -/
theorem stripFence_undoes_fence :
    (∀ front info code back kept : List Char, isBlankText front = true → '\n' ∉ info →
      isBlankText back = true →
        (stripFence (front ++ (fence info code ++ back)) = kept ↔ Strips (· == '\n') code kept)) ∧
    ∀ output trimmed : List Char, Trims output trimmed →
      (∀ body, trimmed ≠ fenceMark ++ (body ++ fenceMark)) → stripFence output = trimmed := by
  constructor
  · intro front info code back kept blankFront noFeed blankBack
    have trimmed := (trims_iff _ _).mp (trims_fence blankFront blankBack info code)
    have inside : stripFence (front ++ (fence info code ++ back)) = trimLineFeeds code := by
      rw [stripFence_of_fence (trimmed.symm.trans (fence_eq info code)),
        fencedCode_of_lines noFeed, trimLineFeeds_concat]
    rw [inside, strips_iff, trimLineFeeds, eq_comm]
  · intro output trimmed trims plain
    rw [(trims_iff output trimmed).mp trims] at plain ⊢
    exact stripFence_of_not_fence plain

/-- Code that begins and ends with marks of its own, between line feeds and behind a text with a
mark in it. -/
def nestedCode : List Char := "\n```py\n  x = '```'\n````\n\n".toList

/-- The code is left with its own marks and indentation, and marks that overlap are no fence. -/
theorem stripFence_nestedCode :
    stripFence ("\u3000\n".toList ++ (fence "rs```".toList nestedCode ++ "\t ".toList)) =
      "```py\n  x = '```'\n````".toList ∧
    stripFence " `````\n".toList = "`````".toList := by
  obtain ⟨undone, left⟩ := stripFence_undoes_fence
  constructor
  · refine (undone _ _ nestedCode _ _ (by decide) (by decide) (by decide)).mpr ?_
    exact ⟨⟨['\n'], ['\n', '\n'], by decide +kernel, by simp, by simp⟩, by simp, by simp⟩
  · refine left _ _ ((trims_iff _ _).mpr (by decide)) fun body same => ?_
    have lengths := congrArg List.length same
    simp [fenceMark] at lengths

/-! ## Nothing inside -/

/-- Blanks dropped in front leave a text as blank as it was. -/
theorem isBlankText_dropWhile {test : Char → Bool} (blank : ∀ c, test c = true → isBlank c = true)
    (text : List Char) : isBlankText (text.dropWhile test) = isBlankText text := by
  have dropped : isBlankText (text.takeWhile test) = true := by
    rw [isBlankText, List.all_eq_true]
    exact fun c member => blank c (List.mem_takeWhile_imp member)
  conv_rhs => rw [← List.takeWhile_append_dropWhile (p := test) (l := text), isBlankText_append,
    dropped, Bool.true_and]

/-- Line feeds dropped on both sides leave a text as blank as it was. -/
theorem isBlankText_trimLineFeeds (text : List Char) :
    isBlankText (trimLineFeeds text) = isBlankText text := by
  have feed (c : Char) (same : (c == '\n') = true) : isBlank c = true := by
    rw [beq_iff_eq.mp same]
    decide
  have reversed (other : List Char) : isBlankText other.reverse = isBlankText other := by
    simp [isBlankText]
  rw [trimLineFeeds, dropWhileEnd, reversed, isBlankText_dropWhile feed, reversed,
    isBlankText_dropWhile feed]

/-- Trimming leaves a text as blank as it was. -/
theorem isBlankText_trim (text : List Char) : isBlankText (trim text) = isBlankText text := by
  rw [Bool.eq_iff_iff, ← trim_eq_nil_iff, ← trim_eq_nil_iff, trim_trim]

/-- A code fence with nothing inside: only blanks stand between its marks, or behind the line of the
first mark. -/
def IsEmptyFence (text : List Char) : Prop :=
  ∃ body, text = fenceMark ++ (body ++ fenceMark) ∧
    (isBlankText body = true ∨
      ∃ info code, body = info ++ '\n' :: code ∧ '\n' ∉ info ∧ isBlankText code = true)

/-- The code of a fence is blank where there is nothing behind its first line, or nothing at all. -/
theorem isBlankText_fencedCode_iff (body : List Char) :
    isBlankText (fencedCode body) = true ↔
      isBlankText body = true ∨
        ∃ info code, body = info ++ '\n' :: code ∧ '\n' ∉ info ∧ isBlankText code = true := by
  constructor
  · intro blank
    by_cases feed : '\n' ∈ body
    · obtain ⟨info, code, rfl, noFeed⟩ := List.eq_append_cons_of_mem feed
      rw [fencedCode_of_lines noFeed, isBlankText_trimLineFeeds] at blank
      exact .inr ⟨info, code, rfl, noFeed, blank⟩
    · rw [fencedCode_of_line feed, isBlankText_trim] at blank
      exact .inl blank
  · rintro (blank | ⟨info, code, rfl, noFeed, blank⟩)
    · by_cases feed : '\n' ∈ body
      · obtain ⟨info, code, rfl, noFeed⟩ := List.eq_append_cons_of_mem feed
        rw [← List.singleton_append, isBlankText_append, isBlankText_append] at blank
        rw [fencedCode_of_lines noFeed, isBlankText_trimLineFeeds]
        exact (Bool.and_eq_true_iff.mp (Bool.and_eq_true_iff.mp blank).2).2
      · rwa [fencedCode_of_line feed, isBlankText_trim]
    · rwa [fencedCode_of_lines noFeed, isBlankText_trimLineFeeds]

/-- What is left of a text that is not blank is blank just where the text is a fence with nothing
inside. -/
theorem isBlankText_stripFence_iff {output : List Char} (filled : isBlankText output = false) :
    isBlankText (stripFence output) = true ↔ IsEmptyFence (trim output) := by
  by_cases fenced : ∃ body, trim output = fenceMark ++ (body ++ fenceMark)
  · obtain ⟨body, fenced⟩ := fenced
    rw [stripFence_of_fence fenced, isBlankText_fencedCode_iff, fenced]
    constructor
    · exact fun empty => ⟨body, rfl, empty⟩
    · rintro ⟨other, same, empty⟩
      have bodies : body ++ fenceMark = other ++ fenceMark := List.append_cancel_left same
      rw [List.append_cancel_right bodies]
      exact empty
  · have plain : ∀ body, trim output ≠ fenceMark ++ (body ++ fenceMark) := fun body same =>
      fenced ⟨body, same⟩
    rw [stripFence_of_not_fence plain, isBlankText_trim, filled]
    constructor
    · intro blank
      contradiction
    · rintro ⟨body, same, _⟩
      exact absurd same (plain body)

end SourceOutline
