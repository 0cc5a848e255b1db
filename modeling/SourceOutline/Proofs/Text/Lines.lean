import Mathlib.Algebra.GroupWithZero.Nat
import Mathlib.Data.List.Basic
import SourceOutline.Text.Lines

/-!
# Counting and joining lines

A text has one more line than it has line feeds, and pieces joined by a separator have the
separators between them besides their own. Pieces cut again at a second separator are those between
either separator. Neighbouring lines joined again are a part of the text that starts where a line
starts and ends where a line ends.
-/

namespace SourceOutline.Text

/-- There is one more piece than there are separators. -/
theorem length_splitOn (separator : Char) (text : List Char) :
    (text.splitOn separator).length = text.count separator + 1 := by
  induction text with
  | nil => rfl
  | cons c rest ih =>
    rw [List.splitOn_cons_eq_if_modifyHead]
    by_cases same : c = separator
    · rw [if_pos (by simpa using same), List.length_cons, ih, same, List.count_cons_self]
    · rw [if_neg (by simpa using same), List.count_cons_of_ne same, List.length_modifyHead, ih]

/-- A text has one more line than it has line feeds. -/
theorem length_splitLines (text : List Char) :
    (splitLines text).length = text.count '\n' + 1 :=
  length_splitOn '\n' text

/-- Joined pieces have their own separators and one between every two neighbours. -/
theorem count_intercalate (separator : Char) (pieces : List (List Char)) (nonempty : pieces ≠ []) :
    ([separator].intercalate pieces).count separator + 1 =
      pieces.length + (pieces.map (List.count separator)).sum := by
  induction pieces with
  | nil => contradiction
  | cons piece pieces ih =>
    by_cases single : pieces = []
    · subst single
      simp [Nat.add_comm]
    · have rest := ih single
      rw [List.intercalate_cons_of_ne_nil single, List.count_append, List.count_append,
        List.count_singleton_self, List.length_cons, List.map_cons, List.sum_cons]
      omega

/-- A character that stands neither in the separator nor in a piece does not stand in the
joined text. -/
theorem not_mem_intercalate {c : Char} {separator : List Char} {pieces : List (List Char)}
    (outside : c ∉ separator) (each : ∀ piece ∈ pieces, c ∉ piece) :
    c ∉ separator.intercalate pieces := by
  induction pieces with
  | nil => simp
  | cons piece pieces ih =>
    have first := each piece List.mem_cons_self
    have rest := ih fun other listed => each other (List.mem_cons_of_mem piece listed)
    by_cases single : pieces = []
    · subst single
      simpa using first
    · rw [List.intercalate_cons_of_ne_nil single]
      simp [first, outside, rest]

/-- What stands in front of the first piece stands in front of the joined pieces. -/
theorem intercalate_append_cons (separator front piece : List Char) (pieces : List (List Char)) :
    separator.intercalate ((front ++ piece) :: pieces) =
      front ++ separator.intercalate (piece :: pieces) := by
  cases pieces with
  | nil => simp
  | cons next pieces => simp [List.intercalate_cons_cons]

/-! ## Lines of joined lines -/

/-- No separator stands in a piece. -/
theorem not_mem_of_mem_splitOn (separator : Char) (text : List Char) :
    ∀ piece ∈ text.splitOn separator, separator ∉ piece := by
  induction text with
  | nil => simp
  | cons c rest ih =>
    rw [List.splitOn_cons_eq_if_modifyHead]
    by_cases same : c = separator
    · simpa [same] using ih
    · obtain ⟨piece, pieces, cut⟩ :=
        List.exists_cons_of_ne_nil (List.splitOn_ne_nil separator rest)
      rw [if_neg (by simpa using same), cut, List.modifyHead_cons]
      rw [cut] at ih
      obtain ⟨first, others⟩ := List.forall_mem_cons.mp ih
      exact List.forall_mem_cons.mpr ⟨by simp [Ne.symm same, first], others⟩

/-- Lines that are joined are cut apart again. -/
theorem splitLines_joinLines {lines : List Line} (filled : lines ≠ [])
    (plain : ∀ line ∈ lines, '\n' ∉ line) : splitLines (joinLines lines) = lines :=
  List.splitOn_intercalate '\n' plain filled

/-- Each piece behind the first has a separator in front of it. -/
theorem intercalate_cons (separator : Char) (piece : List Char) (pieces : List (List Char)) :
    [separator].intercalate (piece :: pieces) = piece ++ pieces.flatMap (separator :: ·) := by
  induction pieces generalizing piece with
  | nil => simp
  | cons next pieces ih =>
    rw [List.intercalate_cons_cons, ih, List.flatMap_cons, List.append_assoc]
    rfl

/-- A piece stands in the joined text. -/
theorem infix_intercalate_of_mem {separator piece : List Char} {pieces : List (List Char)}
    (listed : piece ∈ pieces) : piece <:+: separator.intercalate pieces := by
  induction pieces with
  | nil => contradiction
  | cons first pieces ih =>
    by_cases single : pieces = []
    · subst single
      obtain rfl := List.mem_singleton.mp listed
      simp only [List.intercalate_singleton, List.infix_rfl]
    · rw [List.intercalate_cons_of_ne_nil single]
      rcases List.mem_cons.mp listed with rfl | later
      · exact ⟨[], separator ++ separator.intercalate pieces, by simp⟩
      · exact (ih later).trans (List.suffix_append _ _).isInfix

/-- A piece stands in the text. -/
theorem infix_of_mem_splitOn {separator : Char} {text piece : List Char}
    (listed : piece ∈ text.splitOn separator) : piece <:+: text := by
  have inside : piece <:+: [separator].intercalate (text.splitOn separator) :=
    infix_intercalate_of_mem listed
  rwa [List.intercalate_splitOn] at inside

/-! ## Two separators -/

/-- Pieces that are cut again at a second separator are cut at either of them. -/
theorem flatMap_splitOn (first second : Char) (text : List Char) :
    (text.splitOn first).flatMap (List.splitOn second) =
      text.splitOnP fun c => c == first || c == second := by
  induction text with
  | nil => rfl
  | cons c rest ih =>
    obtain ⟨piece, pieces, cut⟩ := List.exists_cons_of_ne_nil (List.splitOn_ne_nil first rest)
    rw [cut, List.flatMap_cons] at ih
    rw [List.splitOnP_cons_eq_if_modifyHead, ← ih, List.splitOn_cons_eq_if_modifyHead, cut]
    by_cases atFirst : c = first
    · simp [atFirst]
    · rw [if_neg (by simpa using atFirst), List.modifyHead_cons, List.flatMap_cons,
        List.splitOn_cons_eq_if_modifyHead]
      -- The first piece, cut again, has a first piece of its own, which the character begins.
      obtain ⟨start, others, again⟩ :=
        List.exists_cons_of_ne_nil (List.splitOn_ne_nil second piece)
      by_cases atSecond : c = second <;> simp [atFirst, atSecond, again]

/-! ## Parts made of whole lines -/

/-- The part stands in the text, from the start of a line to the end of one. -/
def WholeLines (part text : List Char) : Prop :=
  ∃ before after, text = before ++ part ++ after ∧
    (before = [] ∨ before.getLast? = some '\n') ∧ (after = [] ∨ after.head? = some '\n')

/-- One line joined is the line. -/
@[simp] theorem joinLines_singleton (line : Line) : joinLines [line] = line :=
  List.intercalate_singleton

/-- The lines of a text joined again are the text. -/
theorem joinLines_splitLines (text : List Char) : joinLines (splitLines text) = text :=
  List.intercalate_splitOn '\n'

/-- A line feed stands between the lines of two parts. -/
theorem joinLines_append {front back : List Line} (frontFilled : front ≠ [])
    (backFilled : back ≠ []) :
    joinLines (front ++ back) = joinLines front ++ '\n' :: joinLines back := by
  obtain ⟨first, others, rfl⟩ := List.exists_cons_of_ne_nil frontFilled
  obtain ⟨next, rest, rfl⟩ := List.exists_cons_of_ne_nil backFilled
  rw [joinLines, joinLines, joinLines, List.cons_append, intercalate_cons, intercalate_cons,
    intercalate_cons, List.flatMap_append, List.flatMap_cons, List.cons_append, List.append_assoc]

/-- The lines of two texts with a line feed between them are those of the one and then those of the
other. -/
theorem splitLines_append (front back : List Char) :
    splitLines (front ++ '\n' :: back) = splitLines front ++ splitLines back :=
  List.splitOn_append_cons_self front back

/-- Where lines are added, the joined text goes on at a line feed. -/
theorem joinLines_append_left {front : List Line} (filled : front ≠ []) (back : List Line) :
    ∃ after, joinLines (front ++ back) = joinLines front ++ after ∧
      (after = [] ∨ after.head? = some '\n') := by
  by_cases last : back = []
  · exact ⟨[], by simp [last], Or.inl rfl⟩
  · exact ⟨_, joinLines_append filled last, Or.inr rfl⟩

/-- Neighbouring lines are a part made of whole lines. -/
theorem wholeLines_joinLines {part lines : List Line} (within : part <:+: lines)
    (filled : part ≠ []) : WholeLines (joinLines part) (joinLines lines) := by
  obtain ⟨front, back, rfl⟩ := within
  obtain ⟨after, joined, ends⟩ := joinLines_append_left filled back
  by_cases first : front = []
  · exact ⟨[], after, by simp [first, joined], Or.inl rfl, ends⟩
  · refine ⟨joinLines front ++ ['\n'], after, ?_, Or.inr (by simp), ends⟩
    rw [List.append_assoc, joinLines_append first (by simp [filled]), joined]
    simp

/-- The lines of an inner range stand side by side in those of an outer one. -/
theorem range_within (lines : List Line) {first second third fourth : Nat} (starts : first ≤ second)
    (stops : third ≤ fourth) :
    (lines.drop second).take (third + 1 - second) <:+:
      (lines.drop first).take (fourth + 1 - first) := by
  have inner : (lines.drop second).take (third + 1 - second) <+:
      (lines.take (fourth + 1)).drop second := by
    rw [List.drop_take]
    exact List.take_prefix_take_left (by omega)
  have outer : (lines.take (fourth + 1)).drop second <:+ (lines.take (fourth + 1)).drop first :=
    List.drop_suffix_drop_left _ starts
  have whole : (lines.take (fourth + 1)).drop first =
      (lines.drop first).take (fourth + 1 - first) := List.drop_take
  rw [← whole]
  exact inner.isInfix.trans outer.isInfix

/-- The slice of a range that starts in the text. -/
theorem sliceLines_eq {lines : List Line} {first last : Nat} (starts : first < lines.length)
    (ordered : first ≤ last) :
    sliceLines lines first last = joinLines ((lines.drop first).take (last + 1 - first)) := by
  rw [sliceLines, if_neg (by omega)]

end SourceOutline.Text
