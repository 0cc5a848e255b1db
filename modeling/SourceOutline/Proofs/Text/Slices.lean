import SourceOutline.Proofs.Text.CodeLines

/-!
# Slices of lines

A slice joins the lines of a range. A range may be cut behind any of its lines but the last, and the
slice is then that of the one part, a line feed, and that of the other; beyond the last line nothing
is added. The main statement says this of the lines of a text, together with what is counted: their
number, and the number of those that are lines of code.
-/

namespace SourceOutline.Text

section Ranges

variable {lines : List Line} {first middle last : Nat}

/-- The lines of a range are those up to one of them and those behind it. -/
theorem range_append (lines : List Line) (starts : first ≤ middle) (stops : middle < last) :
    (lines.drop first).take (last + 1 - first) =
      (lines.drop first).take (middle + 1 - first) ++
        (lines.drop (middle + 1)).take (last + 1 - (middle + 1)) := by
  have length : last + 1 - first = (middle + 1 - first) + (last + 1 - (middle + 1)) := by omega
  have next : first + (middle + 1 - first) = middle + 1 := by omega
  rw [length, List.take_add, List.drop_drop, next]

/-- Lines stand in a range that starts in the text. -/
theorem range_ne_nil (inside : first < lines.length) (ordered : first ≤ last) :
    (lines.drop first).take (last + 1 - first) ≠ [] := by
  rw [← List.length_pos_iff, List.length_take, List.length_drop]
  omega

/-- A range may be cut behind one of its lines where another follows in the text. -/
theorem sliceLines_append (starts : first ≤ middle) (stops : middle < last)
    (follows : middle + 1 < lines.length) :
    sliceLines lines first last =
      sliceLines lines first middle ++ '\n' :: sliceLines lines (middle + 1) last := by
  have inside : first < lines.length := by omega
  rw [sliceLines_eq inside (by omega), sliceLines_eq inside starts, sliceLines_eq follows stops,
    range_append lines starts stops,
    joinLines_append (range_ne_nil inside starts) (range_ne_nil follows stops)]

/-- Beyond the last line nothing is added. -/
theorem sliceLines_beyond (first : Nat) (beyond : lines.length ≤ last + 1) :
    sliceLines lines first last = sliceLines lines first (lines.length - 1) := by
  by_cases inside : first < lines.length
  -- Either range takes all lines that are left from its first one on.
  · rw [sliceLines_eq inside (by omega), sliceLines_eq inside (by omega),
      List.take_of_length_le (by rw [List.length_drop]; omega),
      List.take_of_length_le (by rw [List.length_drop]; omega)]
  · rw [sliceLines, if_pos (by omega), sliceLines, if_pos (by omega)]

/-- The slice of one line is this line. -/
theorem sliceLines_self {index : Nat} {line : Line} (found : lines[index]? = some line) :
    sliceLines lines index index = line := by
  obtain ⟨inside, rfl⟩ := List.getElem?_eq_some_iff.mp found
  rw [sliceLines_eq inside (Nat.le_refl _), List.drop_eq_getElem_cons inside,
    Nat.add_sub_cancel_left]
  exact joinLines_singleton _

end Ranges

/-- The slice of all lines is the text. -/
theorem sliceLines_splitLines (text : List Char) :
    sliceLines (splitLines text) 0 ((splitLines text).length - 1) = text := by
  have filled : 0 < (splitLines text).length :=
    List.length_pos_iff.mpr (List.splitOn_ne_nil '\n' text)
  rw [sliceLines_eq filled (Nat.zero_le _), List.drop_zero,
    List.take_of_length_le (by omega), joinLines_splitLines]

/-- A text has one more line than it has line feeds, and the slice of all its lines is the text. A
slice may be cut behind any of its lines where another follows in the text, however far beyond the
end it goes: what is beyond the last line adds nothing, and the slice of one line is that line. The
lines of code, though counted among terminated lines, are as many as the lines with a character that
is not blank, and those of two texts with a line feed between them are those of both together. -/
theorem splitLines_sliced_and_counted (source : List Char) :
    (splitLines source).length = source.count '\n' + 1 ∧
    sliceLines (splitLines source) 0 ((splitLines source).length - 1) = source ∧
    (∀ first middle last, first ≤ middle → middle < last → middle + 1 < (splitLines source).length →
      sliceLines (splitLines source) first last =
        sliceLines (splitLines source) first middle ++
          '\n' :: sliceLines (splitLines source) (middle + 1) last) ∧
    (∀ first last, (splitLines source).length ≤ last + 1 →
      sliceLines (splitLines source) first last =
        sliceLines (splitLines source) first ((splitLines source).length - 1)) ∧
    (∀ index line, (splitLines source)[index]? = some line →
      sliceLines (splitLines source) index index = line) ∧
    codeLineCount source = (splitLines source).countP (·.any (!isBlank ·)) ∧
    ∀ front back,
      codeLineCount (front ++ '\n' :: back) = codeLineCount front + codeLineCount back := by
  refine ⟨length_splitLines source, sliceLines_splitLines source, ?_, ?_, ?_,
    codeLineCount_eq_countP source, codeLineCount_append⟩
  · intro first middle last starts stops follows
    exact sliceLines_append starts stops follows
  · intro first last beyond
    exact sliceLines_beyond first beyond
  · intro index line found
    exact sliceLines_self found

/-- A text with carriage returns, an empty line, a line of blanks and a line feed at its end. -/
def raggedText : List Char := "a\r\n\n \u2003\r\nb c\n".toList

/-- Five lines, of which two are code. The text is cut behind its empty line, far beyond its end. -/
theorem splitLines_raggedText :
    (splitLines raggedText).length = 5 ∧
    sliceLines (splitLines raggedText) 0 4 = raggedText ∧
    sliceLines (splitLines raggedText) 0 (10 ^ 20) =
      "a\r\n".toList ++ '\n' :: " \u2003\r\nb c\n".toList ∧
    sliceLines (splitLines raggedText) 3 3 = "b c".toList ∧
    codeLineCount raggedText = 2 ∧ codeLineCount (raggedText ++ '\n' :: raggedText) = 4 := by
  obtain ⟨_, whole, parts, beyond, single, _, both⟩ := splitLines_sliced_and_counted raggedText
  have length : (splitLines raggedText).length = 5 := by decide +kernel
  have code : codeLineCount raggedText = 2 := by decide +kernel
  rw [length] at whole
  refine ⟨length, whole, ?_, single 3 _ (by decide +kernel), code, by rw [both, code]⟩
  rw [parts 0 1 (10 ^ 20) (by decide) (by decide) (by omega), beyond 2 (10 ^ 20) (by omega), length]
  decide +kernel

end SourceOutline.Text
