import SourceOutline.Proofs.Text.Lines
import SourceOutline.Proofs.Text.Trim

/-!
# Lines of code and carriage returns

The lines of code of a text are its lines that are not blank, whichever way the text is cut. A text
whose line feeds all get a carriage return in front has the same lines, each but the last with a
carriage return at its end, and as many lines of code.
-/

namespace SourceOutline.Text

/-- The lines that are not blank. -/
def inkLines (text : List Char) : List Line := (splitLines text).filter (!isBlankText ·)

/-- A text of blanks in two parts. -/
theorem isBlankText_append (front back : List Char) :
    isBlankText (front ++ back) = (isBlankText front && isBlankText back) := by
  rw [isBlankText, isBlankText, isBlankText, List.all_append]

/-- A carriage return is blank. -/
theorem isBlankText_dropReturn (line : Line) :
    isBlankText (dropReturn line) = isBlankText line := by
  rw [dropReturn]
  split
  · next ends =>
    have cut := List.dropLast_append_getLast? _ ends
    rw [← congrArg isBlankText cut, isBlankText_append]
    exact (Bool.and_true _).symm
  · rfl

/-- A line is blank when nothing of it is left between its blanks. -/
theorem isEmpty_trim (line : Line) : (trim line).isEmpty = isBlankText line := by
  rw [Bool.eq_iff_iff, List.isEmpty_iff, trim_eq_nil_iff]

/-- Terminated lines are those cut at line feeds, but for their carriage returns and an empty last
one. -/
theorem length_filter_terminatedLines (lines : List Line) :
    ((terminatedLines lines).filter (!isBlankText ·)).length =
      (lines.filter (!isBlankText ·)).length := by
  fun_induction terminatedLines lines with
  | case1 => rfl
  | case2 last empty =>
    rw [List.isEmpty_iff.mp empty]
    rfl
  | case3 => rfl
  | case4 line lines _ ih =>
    rw [List.filter_cons, List.filter_cons, isBlankText_dropReturn]
    split
    · rw [List.length_cons, List.length_cons, ih]
    · exact ih

/-- The lines of code are the lines that are not blank. -/
theorem codeLineCount_eq (text : List Char) : codeLineCount text = (inkLines text).length := by
  rw [codeLineCount, textLines]
  simp only [isEmpty_trim]
  exact length_filter_terminatedLines (splitLines text)

/-- A line is not blank when it has a character that is not. -/
theorem codeLineCount_eq_countP (text : List Char) :
    codeLineCount text = (splitLines text).countP (·.any (!isBlank ·)) := by
  rw [codeLineCount_eq, inkLines, List.countP_eq_length_filter]
  simp only [isBlankText, List.not_all_eq_any_not]

/-- Two texts with a line feed between them have the lines of code of both. -/
theorem codeLineCount_append (front back : List Char) :
    codeLineCount (front ++ '\n' :: back) = codeLineCount front + codeLineCount back := by
  rw [codeLineCount_eq, codeLineCount_eq, codeLineCount_eq, inkLines, splitLines_append,
    List.filter_append, List.length_append, ← inkLines, ← inkLines]

/-! ## Carriage returns -/

/-- The text with a carriage return in front of every line feed. -/
def withReturns (text : List Char) : List Char :=
  text.flatMap fun c => if c = '\n' then ['\r', '\n'] else [c]

/-- A line with a carriage return at its end. -/
def addReturn (line : Line) : Line := line ++ ['\r']

/-- Lines with a carriage return at the end of each but the last. -/
def addReturns : List Line → List Line
  | [] => []
  | [last] => [last]
  | line :: next :: more => addReturn line :: addReturns (next :: more)

/-- A line in front of others ends with a carriage return. -/
theorem addReturns_cons {line : Line} {lines : List Line} (more : lines ≠ []) :
    addReturns (line :: lines) = addReturn line :: addReturns lines := by
  cases lines with
  | nil => contradiction
  | cons next lines => rfl

/-- The first of several lines may have grown. -/
theorem addReturns_cons_cons (c : Char) (line : Line) (lines : List Line) :
    ∃ first rest, addReturns (line :: lines) = first :: rest ∧
      addReturns ((c :: line) :: lines) = (c :: first) :: rest := by
  cases lines with
  | nil => exact ⟨line, [], rfl, rfl⟩
  | cons next lines => exact ⟨addReturn line, addReturns (next :: lines), rfl, rfl⟩

/-- Cutting finds the carriage returns at the ends of the lines. -/
theorem splitLines_withReturns (text : List Char) :
    splitLines (withReturns text) = addReturns (splitLines text) := by
  induction text with
  | nil => rfl
  | cons c rest ih =>
    rw [splitLines] at ih ⊢
    rw [withReturns, List.flatMap_cons, ← withReturns, splitLines,
      List.splitOn_cons_eq_if_modifyHead]
    by_cases feed : c = '\n'
    · have cut : (['\r', '\n'] ++ withReturns rest).splitOn '\n' =
          ['\r'] :: (withReturns rest).splitOn '\n' :=
        List.splitOn_append_cons_self_of_not_mem (show '\n' ∉ ['\r'] by decide) _
      rw [if_pos feed, cut, ih, if_pos (by simpa using feed),
        addReturns_cons (List.splitOn_ne_nil '\n' rest)]
      rfl
    · obtain ⟨piece, more, pieces⟩ :=
        List.exists_cons_of_ne_nil (List.splitOn_ne_nil '\n' rest)
      obtain ⟨first, others, plain, grown⟩ := addReturns_cons_cons c piece more
      rw [if_neg feed, List.singleton_append, List.splitOn_cons_eq_if_modifyHead,
        if_neg (by simpa using feed), if_neg (by simpa using feed), ih, splitLines, pieces, plain,
        List.modifyHead_cons, List.modifyHead_cons, grown]

/-- Blank lines stay blank with carriage returns, and others do not become so. -/
theorem length_filter_addReturns (lines : List Line) :
    ((addReturns lines).filter (!isBlankText ·)).length =
      (lines.filter (!isBlankText ·)).length := by
  fun_induction addReturns lines with
  | case1 => rfl
  | case2 => rfl
  | case3 line next more ih =>
    have same : isBlankText (addReturn line) = isBlankText line := by
      rw [addReturn, isBlankText_append]
      exact Bool.and_true _
    rw [List.filter_cons, same, List.filter_cons]
    split
    · rw [List.length_cons, List.length_cons, ih]
    · exact ih

/-- A carriage return at the end is a blank there. -/
theorem trimEnd_addReturn (line : Line) : trimEnd (addReturn line) = trimEnd line := by
  rw [trimEnd, dropWhileEnd, addReturn, List.reverse_append, List.reverse_singleton,
    List.singleton_append, List.dropWhile_cons_of_pos (by decide), trimEnd, dropWhileEnd]

/-- Trimming takes away an added carriage return. -/
theorem trim_addReturn (line : Line) : trim (addReturn line) = trim line := by
  obtain ⟨⟨front, back, cut, blankFront, blankBack⟩, starts, stops⟩ := trims_trim line
  refine ((trims_iff _ _).mp ⟨⟨front, back ++ ['\r'], ?_, blankFront, ?_⟩, starts, stops⟩).symm
  · rw [addReturn, ← List.append_assoc, ← List.append_assoc, List.append_assoc front, ← cut]
  · intro c member
    rcases List.mem_append.mp member with inner | last
    · exact blankBack c inner
    · rw [List.mem_singleton.mp last]
      rfl

/-- Trimming takes away the carriage return of a terminator as well. -/
theorem trim_dropReturn (line : Line) : trim (dropReturn line) = trim line := by
  rw [dropReturn]
  split
  · next ends =>
    have cut := List.dropLast_append_getLast? _ ends
    rw [← trim_addReturn, addReturn, cut]
  · rfl

/-- What does not stand in a text does not stand in its lines. -/
theorem not_mem_of_mem_splitLines {c : Char} {text : List Char} (outside : c ∉ text) :
    ∀ line ∈ splitLines text, c ∉ line := fun _ listed member =>
  outside ((infix_of_mem_splitOn listed).subset member)

/-- What is left of the lines without carriage returns. -/
theorem map_filter_addReturns {lines : List Line} (plain : ∀ line ∈ lines, '\r' ∉ line) :
    (addReturns lines).map (List.filter (· ≠ '\r')) = lines := by
  have same (line : Line) (clean : '\r' ∉ line) : line.filter (· ≠ '\r') = line := by
    rw [List.filter_eq_self]
    intro c member
    simpa using fun equal : c = '\r' => clean (equal ▸ member)
  fun_induction addReturns lines with
  | case1 => rfl
  | case2 last => rw [List.map_singleton, same last (plain last (by simp))]
  | case3 line next more ih =>
    obtain ⟨first, others⟩ := List.forall_mem_cons.mp plain
    rw [List.map_cons, ih others, addReturn, List.filter_append, same line first]
    simp

/-- Characters other than line feeds may be left out of joined lines line by line. -/
theorem filter_joinLines {test : Char → Bool} (feeds : test '\n' = true) (lines : List Line) :
    (joinLines lines).filter test = joinLines (lines.map (List.filter test)) := by
  cases lines with
  | nil => rfl
  | cons line lines =>
    rw [joinLines, joinLines, List.map_cons, intercalate_cons, intercalate_cons,
      List.filter_append, List.filter_flatMap, List.flatMap_map]
    simp [feeds]

/-- Carriage returns make no line of code. -/
theorem codeLineCount_withReturns (text : List Char) :
    codeLineCount (withReturns text) = codeLineCount text := by
  rw [codeLineCount_eq, codeLineCount_eq, inkLines, splitLines_withReturns,
    length_filter_addReturns, inkLines]

end SourceOutline.Text
