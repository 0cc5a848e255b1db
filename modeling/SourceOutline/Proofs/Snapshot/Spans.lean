import SourceOutline.Proofs.Grammar.StatementRows
import SourceOutline.Proofs.Outline.Laminar
import SourceOutline.Proofs.Outline.Offers
import SourceOutline.Snapshot.Basic

/-!
# Lines of functions

However a source is read, each of its functions takes lines of it, and the text of the function
is exactly these lines. By the grammar a function ends with its last row of code. By line patterns
it takes a window of lines that the end of the source may clip. The window may be as large as a
word: sums of words that stop at the largest one lead to the same line.
-/

namespace SourceOutline

open Text Outline Grammar

/-- The lines from one number to another. Numbers count from one. -/
def linesBetween (lines : List Line) (first last : Nat) : List Line :=
  (lines.drop (first - 1)).take (last + 1 - first)

/-- A function takes lines of a source, and its text is these lines. -/
structure FunctionRecord.Spans (record : FunctionRecord) (source : List Char) : Prop where
  /-- Lines are counted from one. -/
  starts : 1 ≤ record.startLine
  /-- There is at least one line. -/
  ordered : record.startLine ≤ record.endLine
  /-- The last line is a line of the source. -/
  inside : record.endLine ≤ source.count '\n' + 1
  /-- The text is the lines joined. -/
  text : record.sourceSlice.toList =
    joinLines (linesBetween (splitLines source) record.startLine record.endLine)

namespace FunctionRecord.Spans

variable {record : FunctionRecord} {source : List Char}

/-- The lines of a function stand side by side in the source. -/
theorem linesBetween_ne_nil (spans : record.Spans source) :
    linesBetween (splitLines source) record.startLine record.endLine ≠ [] := by
  have count := length_splitLines source
  obtain ⟨starts, ordered, inside, _⟩ := spans
  rw [← List.length_pos_iff, linesBetween, List.length_take, List.length_drop]
  omega

/-- The text of a function starts and ends where a line does. -/
theorem wholeLines (spans : record.Spans source) :
    WholeLines record.sourceSlice.toList source := by
  have within : linesBetween (splitLines source) record.startLine record.endLine <:+:
      splitLines source :=
    (List.take_prefix _ _).isInfix.trans (List.drop_suffix _ _).isInfix
  have whole := wholeLines_joinLines within spans.linesBetween_ne_nil
  rwa [joinLines_splitLines, ← spans.text] at whole

/-- The lines of the text are those of the source. -/
theorem splitLines_sourceSlice (spans : record.Spans source) :
    splitLines record.sourceSlice.toList =
      linesBetween (splitLines source) record.startLine record.endLine := by
  rw [spans.text, splitLines_joinLines spans.linesBetween_ne_nil]
  intro line listed
  exact not_mem_of_mem_splitOn '\n' source line
    (List.mem_of_mem_drop (List.mem_of_mem_take listed))

end FunctionRecord.Spans

/-! ## Functions by the grammar -/

/-- Functions that the grammar finds take lines of the source. -/
theorem spans_of_mem_byGrammar {source : List Char} {record : FunctionRecord}
    (listed : record ∈ (byGrammar source).1.functions) : record.Spans source := by
  rw [byGrammar] at listed
  split at listed
  · next trees parsed =>
    have placed := parse_lieIn parsed
    rw [functions_ofTrees] at listed
    obtain ⟨entry, found, rfl⟩ := List.mem_map.mp listed
    obtain ⟨ordered, inside⟩ := row_le_last_of_mem placed found
    have ends := endLine_record placed found
    rw [length_splitLines] at inside
    exact
      { starts := Nat.succ_le_succ (Nat.zero_le _)
        ordered := ends ▸ Nat.succ_le_succ ordered
        inside := ends ▸ inside
        text := by
          rw [ends, sourceSlice_record placed found]
          change _ = joinLines (linesBetween _ (entry.2.row + 1) _)
          rw [linesBetween, Nat.add_sub_cancel, Nat.add_sub_add_right] }
  · contradiction

/-! ## Functions by line patterns -/

/-- What a pattern finds cuts the line in three. -/
theorem find?_cut {pattern : Pattern} {line : Line} {found : Pattern.Found}
    (search : pattern.find? line = some found) :
    found.before ++ found.name ++ found.after = line := by
  rw [Pattern.find?] at search
  split at search
  · obtain rfl := Option.some.inj search
    rw [List.append_assoc, ← List.drop_drop, List.take_append_drop, List.take_append_drop]
  · contradiction

/-- What patterns offer cuts the line in three. -/
theorem offered?_cut {patterns : List Pattern} {line : Line} {found : Pattern.Found}
    (first : offered? patterns line = some found) :
    found.before ++ found.name ++ found.after = line := by
  obtain ⟨pattern, _, search⟩ := List.mem_filterMap.mp (List.mem_of_find?_eq_some first)
  exact find?_cut search

/-- Lines outside import blocks are lines of the source. -/
theorem declaringLines_sublist (table : Table) (lines : List (Line × Nat)) :
    (declaringLines table lines).Sublist lines := by
  rw [declaringLines]
  split
  · exact List.Sublist.refl lines
  · next block _ =>
    fun_induction outsideBlocks block lines with
    | case1 => exact List.Sublist.refl _
    | case2 entry rest _ ih =>
      have behind : (behindBlock block rest).Sublist rest :=
        (List.drop_sublist 1 _).trans (List.dropWhile_sublist _)
      exact (ih.trans behind).cons entry
    | case3 entry rest _ ih => exact ih.cons_cons entry

/-- A name is offered by a line of the source that holds it. -/
theorem line_of_mem_offers {table : Table} {lines : List Line} {offer : Offer}
    (listed : offer ∈ offers table lines) :
    ∃ line, lines[offer.index]? = some line ∧
      offer.found.before ++ offer.found.name ++ offer.found.after = line := by
  obtain ⟨⟨line, index⟩, declaring, own⟩ := List.mem_flatMap.mp listed
  have here : lines[index]? = some line :=
    List.mem_zipIdx_iff_getElem?.mp ((declaringLines_sublist table _).subset declaring)
  rcases List.mem_append.mp own with cls | function
  · obtain ⟨found, first, rfl⟩ := Option.map_eq_some_iff.mp (Option.mem_toList.mp cls)
    exact ⟨line, here, offered?_cut first⟩
  · obtain ⟨found, first, rfl⟩ := Option.map_eq_some_iff.mp (Option.mem_toList.mp function)
    exact ⟨line, here, offered?_cut first⟩

/-- A function that is offered takes a window of lines from its own on, as far as there are
lines. -/
theorem Offer.record_window (table : Table) {window : Nat} {lines : List Line} {offer : Offer}
    {line : Line} (here : lines[offer.index]? = some line) (wide : 1 ≤ window) :
    (offer.record table window lines).endLine = min (offer.index + window) lines.length ∧
    (offer.record table window lines).sourceSlice.toList =
      joinLines ((lines.drop offer.index).take window) := by
  obtain ⟨inside, same⟩ := List.getElem?_eq_some_iff.mp here
  have cut : lines.drop offer.index = line :: lines.drop (offer.index + 1) := by
    rw [List.drop_eq_getElem_cons inside, same]
  have first : lines.getD offer.index [] = line := by
    rw [List.getD_eq_getElem?_getD, here, Option.getD_some]
  constructor
  · change offer.index + 1 + ((lines.drop (offer.index + 1)).take (window - 1)).length = _
    rw [List.length_take, List.length_drop]
    omega
  · change (String.ofList (joinLines
      (lines.getD offer.index [] :: (lines.drop (offer.index + 1)).take (window - 1)))).toList = _
    rw [String.toList_ofList, first, cut, List.take_cons (by omega)]

/-- Functions that line patterns find take lines of the source from one that holds their name on,
as many as the window has or the source leaves. -/
theorem spans_of_mem_byLine {language : Language} {window : Nat} {source : List Char}
    {record : FunctionRecord} (listed : record ∈ (byLine language window source).functions) :
    record.Spans source ∧
    record.endLine = min (record.startLine + max window 1 - 1) (source.count '\n' + 1) ∧
    ∃ line, (splitLines source)[record.startLine - 1]? = some line ∧
      record.name.toList <:+: line := by
  rw [byLine] at listed
  split at listed
  · contradiction
  · next table _ =>
    rw [byTable, (readLines_shows_firstOffers table (max window 1) (splitLines source)).functions]
      at listed
    obtain ⟨offer, kept, rfl⟩ := List.mem_map.mp listed
    have offered := mem_of_mem_firstOffers (List.mem_of_mem_filter kept)
    obtain ⟨line, here, cut⟩ := line_of_mem_offers offered
    have inside := (List.getElem?_eq_some_iff.mp here).1
    obtain ⟨ends, text⟩ := Offer.record_window table here (Nat.le_max_right window 1)
    have count := length_splitLines source
    have start : (offer.record table (max window 1) (splitLines source)).startLine =
        offer.index + 1 := rfl
    rw [count] at ends inside
    refine ⟨⟨?_, ?_, ?_, ?_⟩, ?_, line, here, ?_⟩
    · rw [start]
      exact Nat.succ_le_succ (Nat.zero_le _)
    · rw [start, ends]
      omega
    · rw [ends]
      exact Nat.min_le_right _ _
    · -- Both ranges reach to the end of the source when the window does.
      rw [text, start, ends, linesBetween, Nat.add_sub_cancel]
      refine congrArg joinLines (List.take_eq_take_iff.mpr ?_)
      rw [List.length_drop, count]
      omega
    · rw [start, ends]
      congr 1
      omega
    · change (String.ofList offer.found.name).toList <:+: line
      rw [String.toList_ofList]
      exact ⟨_, _, cut⟩

/-! ## Windows in machine words -/

/-- The sum of two words, or the largest word where there is no larger one. -/
def addSaturating (left right : UInt64) : UInt64 :=
  if left + right < left then .ofNat (UInt64.size - 1) else left + right

/-- A sum of words stops at the largest word. -/
theorem toNat_addSaturating (left right : UInt64) :
    (addSaturating left right).toNat = min (left.toNat + right.toNat) (UInt64.size - 1) := by
  have leftWord := left.toNat_lt_size
  have rightWord := right.toNat_lt_size
  have sum : (left + right).toNat = (left.toNat + right.toNat) % UInt64.size := UInt64.toNat_add ..
  rw [addSaturating]
  split
  · next wrapped =>
    rw [UInt64.lt_iff_toNat_lt, sum] at wrapped
    rw [UInt64.toNat_ofNat_of_lt' (by decide)]
    simp only [UInt64.size] at *
    omega
  · next fits =>
    rw [UInt64.lt_iff_toNat_lt, sum] at fits
    rw [sum]
    simp only [UInt64.size] at *
    omega

/-- The last line of a window that starts behind `index` lines, clipped by the number of lines. -/
def windowEnd (index window count : UInt64) : UInt64 :=
  min (addSaturating index (max window 1 - 1)) (count - 1) + 1

/-- In words that stop at the largest one, a window ends where it does in numbers. -/
theorem toNat_windowEnd {index count : UInt64} (window : UInt64) (inside : index < count) :
    (windowEnd index window count).toNat = min (index.toNat + max window.toNat 1) count.toNat := by
  have word := count.toNat_lt_size
  rw [UInt64.lt_iff_toNat_lt] at inside
  have wide : (max window 1 - 1).toNat = max window.toNat 1 - 1 := by
    have one : 1 ≤ max window 1 :=
      UInt64.le_iff_toNat_le.mpr (UInt64.toNat_max window 1 ▸ Nat.le_max_right _ _)
    rw [UInt64.toNat_sub_of_le _ _ one, UInt64.toNat_max]
    rfl
  have last : (count - 1).toNat = count.toNat - 1 := by
    rw [UInt64.toNat_sub_of_le _ _ (UInt64.le_iff_toNat_le.mpr (by change 1 ≤ _; omega))]
    rfl
  rw [windowEnd, UInt64.toNat_add, UInt64.toNat_min, toNat_addSaturating, wide, last]
  change (_ + 1) % 2 ^ 64 = _
  simp only [UInt64.size] at *
  omega

/-! ## Functions of a snapshot -/

/-- A language is read by its grammar, or else by its line patterns, if it has any. -/
theorem ofLanguage_outline (language : Language) (window : Nat) (source : List Char) :
    (ofLanguage language window source).1 =
      if language.hasSyntaxTree then (byGrammar source).1 else byLine language window source := by
  rw [ofLanguage]
  split
  · rfl
  · change (byPatterns language window source).1 = _
    rw [byPatterns, byLine]
    cases Table.forLanguage? language <;> rfl

/-- For every file and all options, each function takes lines of the source: they are counted from
one, there is at least one of them, none is behind the last line, and the text of the function is
exactly these lines, from the start of one to the end of another. For a language without a grammar
the function takes as many lines as the window has, one at least, or as the source leaves, its name
stands in the first of them, and words that stop at the largest one count the same last line. -/
theorem take_functions_span_lines (options : Snapshot.Options) (filename : String)
    (source : List Char) :
    let snapshot := (Snapshot.take options filename source).1
    ∀ record ∈ snapshot.functions,
      record.Spans source ∧
      WholeLines record.sourceSlice.toList source ∧
      (snapshot.language.hasSyntaxTree = false →
        record.endLine =
          min (record.startLine + max options.window 1 - 1) (source.count '\n' + 1) ∧
        (∃ line, (splitLines record.sourceSlice.toList).head? = some line ∧
          record.name.toList <:+: line) ∧
        ∀ window count : UInt64, window.toNat = options.window →
          count.toNat = source.count '\n' + 1 →
          (windowEnd (.ofNat (record.startLine - 1)) window count).toNat = record.endLine) := by
  intro snapshot record listed
  change record ∈ (ofLanguage snapshot.language options.window source).1.functions at listed
  rw [ofLanguage_outline] at listed
  cases tree : snapshot.language.hasSyntaxTree with
  | true =>
    rw [if_pos tree] at listed
    have spans := spans_of_mem_byGrammar listed
    exact ⟨spans, spans.wholeLines, fun none => nomatch none⟩
  | false =>
    rw [if_neg (by simp [tree])] at listed
    obtain ⟨spans, ends, line, here, named⟩ := spans_of_mem_byLine listed
    have ordered := spans.ordered
    refine ⟨spans, spans.wholeLines, fun _ => ⟨ends, ⟨line, ?_, named⟩, ?_⟩⟩
    · rw [spans.splitLines_sourceSlice, linesBetween, List.head?_take, if_neg (by omega),
        List.head?_drop, here]
    · intro window count windowWord countWord
      have word := count.toNat_lt_size
      have starts := spans.starts
      have inside := spans.inside
      have index : (UInt64.ofNat (record.startLine - 1)).toNat = record.startLine - 1 :=
        UInt64.toNat_ofNat_of_lt' (by omega)
      rw [toNat_windowEnd window (UInt64.lt_iff_toNat_lt.mpr (by omega)), index, windowWord,
        countWord, ends]
      congr 1
      omega

/-- Two functions, of which the second opens in the last line but one. -/
def windowedSource : List Char :=
  "// first\nfunc a() \x7b\n\x7d\nfunc b(x int) \x7b\n".toList

/-- A function inside another one, with comments behind both. -/
def commentedSource : List Char :=
  "@d\nasync def f(a):\n    def g():\n        pass\n    # end\n\n  # more\n".toList

/-- The largest window is clipped at the last line, which is empty, and comments at the end of a
function are no lines of it. -/
theorem take_windowedSource :
    (Snapshot.take { window := 18446744073709551615 } "a.go" windowedSource).1.functions.map
      (fun record => (record.name, record.startLine, record.endLine, record.sourceSlice)) =
      [("a", 2, 5, "func a() \x7b\n\x7d\nfunc b(x int) \x7b\n"),
        ("b", 4, 5, "func b(x int) \x7b\n")] ∧
    (Snapshot.take {} "a.py" commentedSource).1.functions.map
      (fun record => (record.name, record.startLine, record.endLine, record.sourceSlice)) =
      [("f", 2, 4, "async def f(a):\n    def g():\n        pass"),
        ("g", 3, 4, "    def g():\n        pass")] ∧
    (∃ record ∈
        (Snapshot.take { window := 18446744073709551615 } "a.go" windowedSource).1.functions,
      record.name = "b" ∧ record.Spans windowedSource ∧
        WholeLines record.sourceSlice.toList windowedSource ∧
        (windowEnd 3 18446744073709551615 5).toNat = record.endLine) ∧
    ∃ record ∈ (Snapshot.take {} "a.py" commentedSource).1.functions,
      record.name = "g" ∧ record.Spans commentedSource ∧
        WholeLines record.sourceSlice.toList commentedSource := by
  have byPatterns :
      (Snapshot.take { window := 18446744073709551615 } "a.go" windowedSource).1.functions.map
        (fun record => (record.name, record.startLine, record.endLine, record.sourceSlice)) =
        [("a", 2, 5, "func a() \x7b\n\x7d\nfunc b(x int) \x7b\n"),
          ("b", 4, 5, "func b(x int) \x7b\n")] := by
    decide +kernel
  have byGrammar : (Snapshot.take {} "a.py" commentedSource).1.functions.map
      (fun record => (record.name, record.startLine, record.endLine, record.sourceSlice)) =
      [("f", 2, 4, "async def f(a):\n    def g():\n        pass"),
        ("g", 3, 4, "    def g():\n        pass")] := by decide +kernel
  refine ⟨byPatterns, byGrammar, ?_, ?_⟩
  · obtain ⟨record, listed, same⟩ :=
      List.mem_map.mp (byPatterns ▸ List.mem_cons_of_mem _ List.mem_cons_self)
    have start : record.startLine = 4 := congrArg (·.2.1) same
    obtain ⟨spans, whole, byPattern⟩ := take_functions_span_lines
      { window := 18446744073709551615 } "a.go" windowedSource record listed
    obtain ⟨_, _, inWords⟩ := byPattern (by decide +kernel)
    have ends := inWords 18446744073709551615 5 rfl (by decide +kernel)
    rw [start] at ends
    exact ⟨record, listed, congrArg Prod.fst same, spans, whole, ends⟩
  · obtain ⟨record, listed, same⟩ :=
      List.mem_map.mp (byGrammar ▸ List.mem_cons_of_mem _ List.mem_cons_self)
    obtain ⟨spans, whole, _⟩ := take_functions_span_lines {} "a.py" commentedSource record listed
    exact ⟨record, listed, congrArg Prod.fst same, spans, whole⟩

end SourceOutline
