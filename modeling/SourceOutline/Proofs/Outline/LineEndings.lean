import SourceOutline.Proofs.Outline.BlankLines
import SourceOutline.Proofs.Pattern.LineEnd
import SourceOutline.Proofs.Text.Search

/-!
# Line endings

A source whose line feeds all get a carriage return in front is read like the source itself. No
line pattern notices the carriage return at the end of a line, comments are trimmed before they are
read, and what else stands in an outline counts lines. Only the texts of functions keep the
carriage returns.
-/

namespace SourceOutline.Outline

open Text

/-! ## Block comments -/

/-- The first meaningful one of the lines of a block comment. -/
def meaningful? (lines : List Line) : Option (List Char) :=
  (lines.map fun line => cleanComment ((trim line).dropWhile (· == '*'))).find?
    fun line => !line.isEmpty && line.head? != some '@'

/-- The text behind the opening of a block comment, without its closing. -/
def withoutClosing (body : List Char) : List Char :=
  (dropEnding? "*/".toList (trimEnd body)).getD body

/-- Blanks around the lines do not matter. -/
theorem meaningful?_congr {lines others : List Line} (same : lines.map trim = others.map trim) :
    meaningful? lines = meaningful? others := by
  have cleaned (block : List Line) : (block.map fun line =>
      cleanComment ((trim line).dropWhile (· == '*'))) =
        (block.map trim).map fun line => cleanComment (line.dropWhile (· == '*')) := by
    rw [List.map_map]
    rfl
  rw [meaningful?, meaningful?, cleaned, cleaned, same]

/-- Neither carriage returns nor an empty last line matter. -/
theorem meaningful?_terminatedLines (lines : List Line) :
    meaningful? (terminatedLines lines) = meaningful? lines := by
  fun_induction terminatedLines lines with
  | case1 => rfl
  | case2 last empty =>
    rw [List.isEmpty_iff.mp empty]
    rfl
  | case3 => rfl
  | case4 line lines _ ih =>
    rw [meaningful?, meaningful?] at ih ⊢
    rw [List.map_cons, List.map_cons, List.find?_cons, List.find?_cons, trim_dropReturn, ih]

/-- The summary of a block is the first line that tells something behind its opening. -/
theorem blockSummary?_eq {block front body : List Char}
    (cut : cutAt? "/*".toList block = some (front, body)) :
    blockSummary? block = meaningful? (splitLines (withoutClosing body)) := by
  rw [← meaningful?_terminatedLines, ← textLines, blockSummary?, cut]
  rfl

/-- The closing is dropped from the last of several lines. -/
theorem withoutClosing_joinLines {front : List Line} (filled : front ≠ []) {last rest : Line}
    (closes : trimEnd last = rest ++ "*/".toList) :
    withoutClosing (joinLines (front ++ [last])) = joinLines (front ++ [rest]) := by
  have joined (line : Line) : joinLines (front ++ [line]) = joinLines front ++ '\n' :: line := by
    rw [joinLines_append filled (List.cons_ne_nil line []), joinLines_singleton]
  have stays : trimEnd last ≠ [] := by simp [closes]
  have trimmed : trimEnd (joinLines front ++ '\n' :: last) =
      (joinLines front ++ '\n' :: rest) ++ "*/".toList := by
    rw [List.append_cons, trimEnd_append_of_ne_nil _ stays, closes]
    simp
  rw [withoutClosing, joined, joined, trimmed, dropEnding?_append, Option.getD_some]

/-- A block comment on one line says the same with a carriage return at its end. -/
theorem blockSummary?_addReturn {line : Line} (opens : hasInfix "/*".toList line = true)
    (plain : '\n' ∉ line) : blockSummary? (addReturn line) = blockSummary? line := by
  rw [← isSome_cutAt?] at opens
  obtain ⟨⟨front, body⟩, cut⟩ := Option.isSome_iff_exists.mp opens
  have clean : '\n' ∉ body := by
    intro member
    exact plain (eq_of_cutAt? cut ▸ by simp [member])
  have grown : cutAt? "/*".toList (addReturn line) = some (front, addReturn body) :=
    cutAt?_append cut ['\r']
  rw [blockSummary?_eq cut, blockSummary?_eq grown, withoutClosing, withoutClosing,
    trimEnd_addReturn]
  cases dropEnding? "*/".toList (trimEnd body) with
  | some inner => rfl
  | none =>
    have returned : '\n' ∉ addReturn body := by simp [addReturn, clean]
    rw [Option.getD_none, Option.getD_none, splitLines, splitLines, List.splitOn_eq_singleton clean,
      List.splitOn_eq_singleton returned]
    exact meaningful?_congr (by simp [trim_addReturn])

/-- A block comment that opens on its first line and closes on its last says the same with a
carriage return at the end of each line. -/
theorem blockSummary?_joinLines {first : Line} (opens : hasInfix "/*".toList first = true)
    (inner : List Line) {last : Line} (closes : "*/".toList <:+ trim last)
    (plain : ∀ line ∈ first :: inner ++ [last], '\n' ∉ line) :
    blockSummary? (joinLines ((first :: inner ++ [last]).map addReturn)) =
      blockSummary? (joinLines (first :: inner ++ [last])) := by
  rw [← isSome_cutAt?] at opens
  obtain ⟨⟨front, body⟩, cut⟩ := Option.isSome_iff_exists.mp opens
  obtain ⟨rest, ends⟩ := closes.trans (trim_suffix_trimEnd last)
  have joined (line : Line) (lines : List Line) (filled : lines ≠ []) :
      joinLines (line :: lines) = line ++ '\n' :: joinLines lines := by
    rw [← List.singleton_append, joinLines_append (List.cons_ne_nil line []) filled,
      joinLines_singleton]
  -- The cut is made in the first line, so the lines behind it are those of the block.
  have summary (tail : List Char) (lines : List Line) (closing : Line)
      (same : trimEnd closing = rest ++ "*/".toList) :
      blockSummary? (joinLines ((first ++ tail) :: lines ++ [closing])) =
        meaningful? (splitLines (joinLines ((body ++ tail) :: lines ++ [rest]))) := by
    rw [List.cons_append, joined _ _ (by simp), List.append_assoc,
      blockSummary?_eq (cutAt?_append cut _), ← List.append_assoc, ← joined _ _ (by simp),
      ← List.cons_append, withoutClosing_joinLines (List.cons_ne_nil _ _) same]
  have clean : ∀ line ∈ (body :: inner) ++ [rest], '\n' ∉ line := by
    have inLast : '\n' ∉ rest := fun member => plain last (by simp) <| by
      rw [← dropWhileEnd_append isBlank last, ← trimEnd, ← ends]
      simp [member]
    have inBody : '\n' ∉ body := fun member => plain first (by simp) <| by
      rw [eq_of_cutAt? cut]
      simp [member]
    simp only [List.cons_append, List.mem_cons, List.mem_append, List.not_mem_nil, or_false]
    rintro line (rfl | listed | rfl)
    · exact inBody
    · exact plain line (by simp [listed])
    · exact inLast
  have returned : ∀ line ∈ (addReturn body :: inner.map addReturn) ++ [rest], '\n' ∉ line := by
    simp only [List.cons_append, List.mem_cons, List.mem_append, List.mem_map, List.not_mem_nil,
      or_false]
    rintro line (rfl | ⟨source, listed, rfl⟩ | rfl)
    · simp [addReturn, clean body (by simp)]
    · simp [addReturn, clean source (by simp [listed])]
    · exact clean line (by simp)
  have left := summary ['\r'] (inner.map addReturn) (addReturn last)
    ((trimEnd_addReturn last).trans ends.symm)
  have right := summary [] inner last ends.symm
  rw [← addReturn, ← addReturn, splitLines_joinLines (by simp) returned] at left
  rw [List.append_nil, List.append_nil, splitLines_joinLines (by simp) clean] at right
  rw [List.map_append, List.map_cons, List.map_singleton, left, right]
  exact meaningful?_congr (by simp [trim_addReturn, Function.comp_def])

/-! ## Documentation -/

/-- A line comment is the same with a carriage return. -/
theorem lineComment?_addReturn (style : CommentStyle) (line : Line) :
    lineComment? style (addReturn line) = lineComment? style line := by
  rw [lineComment?, lineComment?, trim_addReturn]

/-- A run of comments is the same with carriage returns. -/
theorem commentRun_addReturn (style : CommentStyle) (above : List Line) :
    commentRun style (above.map addReturn) = commentRun style above := by
  simp only [commentRun, List.takeWhile_map, List.filterMap_map, Function.comp_def,
    lineComment?_addReturn]

/-- The lines of a block are found alike with carriage returns. -/
theorem blockLines?_addReturn (above : List Line) :
    blockLines? (above.map addReturn) = (blockLines? above).map (List.map addReturn) := by
  induction above with
  | nil => rfl
  | cons line above ih =>
    rw [List.map_cons, blockLines?, blockLines?, addReturn, hasInfix_concat (by decide),
      ← addReturn]
    split
    · rfl
    · rw [ih, Option.map_map, Option.map_map]
      apply Option.map_congr
      intro block _
      simp

/-- The lines of a block comment: one that opens it, alone or with others down to the nearest. -/
theorem shape_of_blockLines? {line : Line} {above block : List Line}
    (found : blockLines? (line :: above) = some block) :
    (∀ other ∈ block, other ∈ line :: above) ∧
      ((hasInfix "/*".toList line = true ∧ block = [line]) ∨
        ∃ first inner, hasInfix "/*".toList first = true ∧ block = first :: inner ++ [line]) := by
  induction above generalizing line block with
  | nil =>
    rw [blockLines?] at found
    split at found
    · next opens =>
      obtain rfl := Option.some.inj found
      exact ⟨fun _ => id, Or.inl ⟨opens, rfl⟩⟩
    · simp [blockLines?] at found
  | cons next above ih =>
    rw [blockLines?] at found
    split at found
    · next opens =>
      obtain rfl := Option.some.inj found
      exact ⟨by simp, Or.inl ⟨opens, rfl⟩⟩
    · obtain ⟨upper, inside, rfl⟩ := Option.map_eq_some_iff.mp found
      obtain ⟨listed, shape⟩ := ih inside
      refine ⟨?_, Or.inr ?_⟩
      · intro other member
        rcases List.mem_append.mp member with within | last
        · exact List.mem_cons_of_mem line (listed other within)
        · rw [List.mem_singleton.mp last]
          exact List.mem_cons_self
      · rcases shape with ⟨opens, rfl⟩ | ⟨first, inner, opens, rfl⟩
        · exact ⟨next, [], opens, rfl⟩
        · exact ⟨first, inner ++ [next], opens, by simp⟩

/-- Carriage returns above a declaration do not change its documentation. -/
theorem docComment?_addReturn (style : CommentStyle) {above : List Line}
    (plain : ∀ line ∈ above, '\n' ∉ line) :
    docComment? style (above.map addReturn) = docComment? style above := by
  have attributes : ((fun line : Line => isAttribute (trim line)) ∘ addReturn) =
      fun line => isAttribute (trim line) := by
    funext line
    rw [Function.comp_apply, trim_addReturn]
  rw [docComment?, docComment?, List.dropWhile_map, attributes]
  have within : ∀ line ∈ above.dropWhile fun line => isAttribute (trim line), '\n' ∉ line :=
    fun line listed => plain line (List.dropWhile_sublist _ |>.subset listed)
  generalize (above.dropWhile fun line => isAttribute (trim line)) = nearest at within ⊢
  cases nearest with
  | nil => rfl
  | cons line higher =>
    rw [List.map_cons]
    dsimp only
    rw [trim_addReturn, ← List.map_cons, blockLines?_addReturn, commentRun_addReturn]
    split
    · next closes =>
      have ends : "*/".toList <:+ trim line := by
        simp only [Bool.and_eq_true] at closes
        exact List.isSuffixOf_iff_suffix.mp closes.2
      cases found : blockLines? (line :: higher) with
      | none => rfl
      | some block =>
        rw [Option.map_some, Option.bind_some, Option.bind_some]
        obtain ⟨listed, ⟨opens, rfl⟩ | ⟨first, inner, opens, rfl⟩⟩ := shape_of_blockLines? found
        · rw [List.map_singleton, joinLines_singleton, joinLines_singleton]
          exact blockSummary?_addReturn opens (within line List.mem_cons_self)
        · exact blockSummary?_joinLines opens inner ends fun other member =>
            within other (listed other member)
    · rfl

/-! ## One line -/

/-- The second record is the first one of a source with other line endings: it has the same name
and the same lines, the same documentation if any of the two has documentation, and the same text
but for carriage returns. -/
structure SameButReturns (plain returned : FunctionRecord) : Prop where
  /-- The name is the same. -/
  name : returned.name = plain.name
  /-- It starts on the same line. -/
  startLine : returned.startLine = plain.startLine
  /-- It ends on the same line. -/
  endLine : returned.endLine = plain.endLine
  /-- What documents one of them documents the other. -/
  documented : plain.summarySource = .docComment ∨ returned.summarySource = .docComment →
    returned.summarySource = .docComment ∧ plain.summarySource = .docComment ∧
      returned.summary = plain.summary
  /-- The texts differ by carriage returns only. -/
  sourceSlice : returned.sourceSlice.toList.filter (· ≠ '\r') = plain.sourceSlice.toList

/-- Functions of one name are the same but for carriage returns if their documentation is the same
and the lines from them on differ by carriage returns only. -/
theorem describe_sameButReturns (table : Table) (window index : Nat) {above upper : List Line}
    (comment : docComment? table.comments upper = docComment? table.comments above)
    {line other : Line} {below lower : List Line}
    (plain : (other :: lower).map (List.filter (· ≠ '\r')) = line :: below)
    {found kept : Pattern.Found} (named : kept.name = found.name) :
    SameButReturns (describe table window index above line below found).1
      (describe table window index upper other lower kept).1 := by
  obtain ⟨first, rest⟩ := List.cons.inj plain
  have body : (lower.take (window - 1)).map (List.filter (· ≠ '\r')) = below.take (window - 1) := by
    rw [List.map_take, rest]
  refine ⟨congrArg String.ofList named, rfl, ?_, ?_, ?_⟩
  · have count := congrArg List.length body
    rw [List.length_map] at count
    exact congrArg (index + 1 + ·) count
  · rw [describe, describe, comment]
    cases docComment? table.comments above with
    | some text => exact fun _ => ⟨rfl, rfl, rfl⟩
    | none => simp
  · simp only [describe, String.toList_ofList]
    rw [filter_joinLines (by decide), List.map_cons, first, body]

/-- What a pattern finds up to the end of the name. -/
def heading (found : Pattern.Found) : List Char × List Char := (found.before, found.name)

/-- No pattern of the table tells the lines apart but for what stands behind a name. -/
def ReadAlike (table : Table) (line other : Line) : Prop :=
  ∀ pattern ∈ table.patterns, pattern.search other = pattern.search line ∧
    (pattern.find? other).map heading = (pattern.find? line).map heading

/-- A line is read like itself with a carriage return. -/
theorem readAlike_addReturn {table : Table}
    (ignores : ∀ pattern ∈ table.patterns, pattern.ignoresReturn = true) (line : Line) :
    ReadAlike table line (addReturn line) := by
  intro pattern listed
  rw [addReturn, Pattern.search_append_return (ignores pattern listed),
    Pattern.find?_append_return (ignores pattern listed), Option.map_map]
  exact ⟨rfl, rfl⟩

/-- Whether a name counts depends on what is found up to its end. -/
theorem map_heading_declared? (patterns : List Pattern) (line : Line) :
    (declared? patterns line).map heading =
      patterns.findSome? fun pattern => ((pattern.find? line).map heading).bind fun key =>
        if isReserved (String.ofList key.2) || startsStatement key.1 then none else some key := by
  rw [declared?, List.map_findSome?]
  apply Pattern.findSome?_congr
  intro pattern _
  rw [Function.comp_apply]
  cases pattern.find? line with
  | none => rfl
  | some found => exact apply_ite (Option.map heading) _ _ _

section Alike

variable {table : Table} {line other : Line} (alike : ReadAlike table line other)

include alike

/-- Lines that are read alike name the same libraries. -/
theorem librariesOf_of_readAlike (patterns : List Pattern) (listed : patterns ⊆ table.patterns) :
    librariesOf patterns other = librariesOf patterns line := by
  rw [librariesOf, librariesOf]
  apply List.filterMap_congr
  intro pattern member
  have same := congrArg (Option.map Prod.snd) (alike pattern (listed member)).2
  rw [Option.map_map, Option.map_map] at same
  have library (text : Line) : (pattern.find? text).bind (fun found => Library.ofPath? found.name) =
      ((pattern.find? text).map (Prod.snd ∘ heading)).bind Library.ofPath? := by
    rw [Option.bind_map]
    rfl
  rw [library, library, same]

/-- Lines that are read alike declare the same heading. -/
theorem declared?_of_readAlike (patterns : List Pattern) (listed : patterns ⊆ table.patterns) :
    (declared? patterns other).map heading = (declared? patterns line).map heading := by
  rw [map_heading_declared?, map_heading_declared?]
  apply Pattern.findSome?_congr
  intro pattern member
  rw [(alike pattern (listed member)).2]

/-- Lines that are read alike give the same new class. -/
theorem newClass?_of_readAlike (seen : List String) :
    newClass? table seen other = newClass? table seen line := by
  have same := declared?_of_readAlike alike table.classes table.classes_subset
  have named (text : Line) : newClass? table seen text =
      ((declared? table.classes text).map heading).bind fun key =>
        if seen.contains (String.ofList key.2) then none else some (String.ofList key.2) := by
    rw [newClass?, Option.bind_map]
    rfl
  rw [named, named, same]

/-- Lines that are read alike give a new function with the same heading. -/
theorem newFunction?_of_readAlike (seen : List String) :
    (newFunction? table seen other).map heading = (newFunction? table seen line).map heading := by
  have same := declared?_of_readAlike alike table.functions table.functions_subset
  have named (text : Line) : (newFunction? table seen text).map heading =
      ((declared? table.functions text).map heading).bind fun key =>
        if seen.contains (String.ofList key.2) then none else some key := by
    rw [newFunction?, Option.bind_map, Option.map_bind]
    apply Option.bind_congr
    intro found _
    rw [Function.comp_apply, Function.comp_apply, apply_ite (Option.map heading)]
    rfl
  rw [named, named, same]

/-- What a line outside an import block says, for lines that are read alike. -/
theorem readLine_of_readAlike (window : Nat) (reading : Reading) {above upper : List Line}
    (comment : docComment? table.comments upper = docComment? table.comments above) (index : Nat)
    {below lower : List Line}
    (plain : (other :: lower).map (List.filter (· ≠ '\r')) = line :: below) :
    let left := readLine table window reading above index line below
    let right := readLine table window reading upper index other lower
    right.1.names = left.1.names ∧ right.2 = left.2 ∧
      List.Forall₂ SameButReturns left.1.functions right.1.functions := by
  have imports := librariesOf_of_readAlike alike table.imports table.imports_subset
  have newClass := newClass?_of_readAlike alike reading.classes
  have newFunction := newFunction?_of_readAlike alike reading.functions
  rw [readLine, readLine, imports, newClass]
  rcases left : newFunction? table reading.functions line with _ | found
  · rw [left, Option.map_none, Option.map_eq_none_iff] at newFunction
    rw [newFunction]
    exact ⟨rfl, rfl, .nil⟩
  · rw [left, Option.map_some] at newFunction
    obtain ⟨kept, right, heads⟩ := Option.map_eq_some_iff.mp newFunction
    have record := describe_sameButReturns table window index comment plain (Prod.mk.inj heads).2
    rw [right]
    refine ⟨?_, ?_, .cons record .nil⟩
    · simp only [Findings.names, Option.map_some, Option.toList_some, List.map_append,
        List.map_singleton, nameOf, record.name]
    · simp only [Option.map_some, record.name]

/-- Lines that are read alike name the same, and their functions are the same but for carriage
returns if these are all that the lines around them differ by. -/
theorem stepLine_of_readAlike (window : Nat) (reading : Reading) {above upper : List Line}
    (comment : docComment? table.comments upper = docComment? table.comments above) (index : Nat)
    {below lower : List Line}
    (plain : (other :: lower).map (List.filter (· ≠ '\r')) = line :: below) :
    let left := stepLine table window reading above index line below
    let right := stepLine table window reading upper index other lower
    right.1.names = left.1.names ∧ right.2 = left.2 ∧
      List.Forall₂ SameButReturns left.1.functions right.1.functions := by
  have read := readLine_of_readAlike alike window reading comment index plain
  rw [stepLine, stepLine]
  cases known : table.block with
  | none => exact read
  | some block =>
    have listed := Table.block_subset known
    have matched (pattern : Pattern) (member : pattern ∈ table.patterns) :
        pattern.isMatch other = pattern.isMatch line := by
      rw [Pattern.isMatch, Pattern.isMatch, (alike pattern member).1]
    have libraries := librariesOf_of_readAlike alike [block.line]
      fun pattern member => listed (by simp_all)
    dsimp only
    rw [matched block.start (listed (by simp)), matched block.stop (listed (by simp)), libraries]
    split
    · split <;> exact ⟨rfl, rfl, .nil⟩
    · split
      · exact ⟨rfl, rfl, .nil⟩
      · exact read

end Alike

/-! ## Whole sources -/

/-- The lines of a source with carriage returns are read in step with those of the source. -/
theorem readLines_addReturns {table : Table}
    (ignores : ∀ pattern ∈ table.patterns, pattern.ignoresReturn = true) (window : Nat)
    {lines : List Line} (plain : ∀ line ∈ lines, '\r' ∉ line) (reading : Reading)
    (above : List Line) (cut : ∀ line ∈ above ++ lines, '\n' ∉ line) (index : Nat) :
    let left := readLines table window reading above index lines
    let right := readLines table window reading (above.map addReturn) index (addReturns lines)
    right.names = left.names ∧ List.Forall₂ SameButReturns left.functions right.functions := by
  induction lines generalizing reading above index with
  | nil => exact ⟨rfl, .nil⟩
  | cons line below ih =>
    -- The last line gets no carriage return, but nothing is read below it.
    obtain ⟨other, step, alike, next⟩ : ∃ other,
        addReturns (line :: below) = other :: addReturns below ∧ ReadAlike table line other ∧
          (below = [] ∨ other = addReturn line) := by
      by_cases last : below = []
      · exact ⟨line, by rw [last]; rfl, fun _ _ => ⟨rfl, rfl⟩, Or.inl last⟩
      · exact ⟨addReturn line, addReturns_cons last, readAlike_addReturn ignores line, Or.inr rfl⟩
    have comment := docComment?_addReturn table.comments fun line listed =>
      cut line (List.mem_append_left _ listed)
    have filtered := map_filter_addReturns plain
    rw [step] at filtered
    obtain ⟨names, behind, records⟩ :=
      stepLine_of_readAlike alike window reading comment index filtered
    rw [step, readLines, readLines]
    dsimp only
    rw [behind]
    generalize (stepLine table window reading above index line below).2 = later
    have rest : let left := readLines table window later (line :: above) (index + 1) below
        let right := readLines table window later (other :: above.map addReturn) (index + 1)
          (addReturns below)
        right.names = left.names ∧ List.Forall₂ SameButReturns left.functions right.functions := by
      rcases next with rfl | rfl
      · exact ⟨rfl, .nil⟩
      · have higher : ∀ other ∈ (line :: above) ++ below, '\n' ∉ other := fun other listed =>
          cut other (List.perm_middle.mem_iff.mpr listed)
        exact ih (List.forall_mem_cons.mp plain).2 later (line :: above) higher (index + 1)
    refine ⟨?_, List.rel_append records rest.2⟩
    rw [Findings.names_append, Findings.names_append, names, rest.1]

/-- For every language and window, a source without carriage returns and the same source with one in
front of every line feed name the same libraries and the same declarations. Their functions are the
same in name and place and, where any of the two is documented, in documentation, and their texts
differ by carriage returns only. Both sources have the same number of lines of code. -/
theorem byLine_withReturns (language : Language) (window : Nat) (source : List Char)
    (plain : '\r' ∉ source) :
    (byLine language window (withReturns source)).libraries =
      (byLine language window source).libraries ∧
    (byLine language window (withReturns source)).tree.map nameOf =
      (byLine language window source).tree.map nameOf ∧
    List.Forall₂ SameButReturns (byLine language window source).functions
      (byLine language window (withReturns source)).functions ∧
    codeLineCount (withReturns source) = codeLineCount source := by
  refine and_assoc.mp (and_assoc.mp ⟨?_, codeLineCount_withReturns source⟩)
  cases known : Table.forLanguage? language with
  | none => simp [byLine, known]
  | some table =>
    obtain ⟨names, records⟩ := readLines_addReturns
      (fun pattern listed => ignoresReturn_of_mem_patterns known listed) (max window 1)
      (not_mem_of_mem_splitLines plain) {} [] (not_mem_of_mem_splitOn '\n' source) 0
    simp only [byLine, known, byTable, splitLines_withReturns]
    have libraries := congrArg (LibrarySet.ofList ·.libraries) names
    exact ⟨⟨libraries, congrArg (·.declarations) names⟩, records⟩

/-- A source with an import block, block comments on one line and on several, and a parameter list
that goes on. -/
def documentedSource : List Char :=
  ("import (\n\t\"fmt\"\n)\n/**\n * Draws it.\n */\nfunc Draw(\n\tsize int) \x7b\n\x7d\n" ++
    "\n/* Hides it. */\nfunc Hide() \x7b").toList

/-- The source and the one with carriage returns say the same. -/
theorem byLine_documentedSource :
    (byLine .go 2 documentedSource).libraries = ["fmt"] ∧
    (byLine .go 2 (withReturns documentedSource)).libraries = ["fmt"] ∧
    (byLine .go 2 documentedSource).functions.map
        (fun record => (record.name, record.summary, record.startLine, record.endLine)) =
      [("Draw", "Draws it.", 7, 8), ("Hide", "Hides it.", 12, 12)] ∧
    List.Forall₂ SameButReturns (byLine .go 2 documentedSource).functions
      (byLine .go 2 (withReturns documentedSource)).functions ∧
    codeLineCount (withReturns documentedSource) = 11 := by
  obtain ⟨libraries, _, functions, count⟩ :=
    byLine_withReturns .go 2 documentedSource (by decide +kernel)
  have named : (byLine .go 2 documentedSource).libraries = ["fmt"] := by decide +kernel
  exact ⟨named, libraries.trans named, by decide +kernel, functions,
    count.trans (by decide +kernel)⟩

end SourceOutline.Outline
