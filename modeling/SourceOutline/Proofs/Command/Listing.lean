import Mathlib.Data.List.Basic
import SourceOutline.Command.Report
import SourceOutline.Proofs.Snapshot.Summaries

/-!
# Listings with line numbers

A report lists the source of a function with the number of each line in front. The source of a
function is cut at line feeds, and the listing reads line feeds as terminators, so an empty last
line has no row. Every other line of the function has one, with its number in the file. All numbers
are at most that of the last line and so are no wider, and the bars stand in one column.
-/

namespace SourceOutline

open Text Outline

/-! ## Terminated lines -/

namespace Text

/-- The terminated lines are as many as the lines, but for an empty last one. -/
theorem length_terminatedLines (lines : List Line) :
    (terminatedLines lines).length =
      if lines.getLast? = some [] then lines.length - 1 else lines.length := by
  fun_induction terminatedLines lines with
  | case1 => rfl
  | case2 last empty => simp [List.isEmpty_iff.mp empty]
  | case3 last filled =>
    have other : last ≠ [] := by simpa using filled
    simp [other]
  | case4 line lines several ih =>
    obtain ⟨next, rest, rfl⟩ := List.exists_cons_of_ne_nil fun none => several (none ▸ rfl)
    rw [List.length_cons, ih, List.getLast?_cons_cons]
    split <;> simp

/-- A terminated line is the line in its place, perhaps without a carriage return. -/
theorem getElem?_terminatedLines {lines : List Line} {place : Nat} {line : Line}
    (found : (terminatedLines lines)[place]? = some line) :
    lines[place]? = some line ∨ lines[place]? = some (line ++ ['\r']) := by
  fun_induction terminatedLines lines generalizing place with
  | case1 => exact Or.inl found
  | case2 => simp at found
  | case3 => exact Or.inl found
  | case4 first lines _ ih =>
    cases place with
    | succ place => exact ih found
    | zero =>
      obtain rfl : dropReturn first = line := by simpa using found
      rw [dropReturn]
      split
      · next ends =>
        exact Or.inr (congrArg some (List.dropLast_append_getLast? _ ends).symm)
      · exact Or.inl rfl

end Text

/-! ## Numbers in columns -/

namespace Report

/-- A smaller number is not wider. -/
theorem length_repr_le {small large : Nat} (ordered : small ≤ large) :
    (Nat.repr small).length ≤ (Nat.repr large).length := by
  rw [← String.length_toList, ← String.length_toList, Nat.toList_repr, Nat.toList_repr,
    Nat.length_toDigits_le_iff (by decide) Nat.length_toDigits_pos]
  refine Nat.lt_of_le_of_lt ordered ?_
  exact (Nat.length_toDigits_le_iff (by decide) Nat.length_toDigits_pos).mp (Nat.le_refl _)

/-- A row of a listing. -/
structure Row where
  /-- The number of the line. -/
  number : Nat
  /-- The line. -/
  line : Line
  /-- The row as it is printed. -/
  text : List Char

/-- The row is the number, with blanks in front so that it ends in the column, then a bar between
two blanks and the line. -/
def Row.Printed (column : Nat) (row : Row) : Prop :=
  ∃ blanks, blanks + (Nat.repr row.number).length = column ∧
    row.text = List.replicate blanks ' ' ++ (Nat.repr row.number).toList ++ " | ".toList ++ row.line

/-- In front of the bar are blanks and digits only. -/
theorem not_mem_number {c : Char} (ink : c ≠ ' ') (other : c.isDigit = false)
    (blanks number : Nat) : c ∉ List.replicate blanks ' ' ++ (Nat.repr number).toList := by
  rw [List.mem_append, List.mem_replicate, Nat.toList_repr, not_or]
  refine ⟨fun blank => ink blank.2, fun digit => ?_⟩
  rw [Nat.isDigit_of_mem_toDigits (by decide) (by decide) digit] at other
  contradiction

/-- The first bar of a row stands behind the column in which the numbers end. -/
theorem Row.Printed.idxOf_bar {column : Nat} {row : Row} (printed : row.Printed column) :
    row.text.idxOf '|' = column + 1 := by
  obtain ⟨blanks, rfl, text⟩ := printed
  rw [text, List.append_assoc, List.idxOf_append_of_notMem
    (not_mem_number (by decide) (by decide) blanks row.number), List.length_append,
    List.length_replicate, String.length_toList]
  rfl

/-- A row whose line is one line is one line. -/
theorem Row.Printed.single {column : Nat} {row : Row} (printed : row.Printed column)
    (line : '\n' ∉ row.line) : '\n' ∉ row.text := by
  obtain ⟨blanks, _, text⟩ := printed
  have front := not_mem_number (c := '\n') (by decide) (by decide) blanks row.number
  have bar : '\n' ∉ " | ".toList := by decide
  rw [text, List.mem_append, List.mem_append]
  tauto

/-- A number that is not wider than the column is moved to its end. -/
theorem alignRight_printed {column number : Nat} (line : Line)
    (fits : (Nat.repr number).length ≤ column) :
    Row.Printed column ⟨number, line, alignRight column number ++ [' ', '|', ' '] ++ line⟩ := by
  refine ⟨column - (Nat.repr number).length, Nat.sub_add_cancel fits, ?_⟩
  rw [alignRight, String.length_toList]
  rfl

/-! ## Rows of a listing -/

/-- The numbers of the lines of a function. -/
def lineNumbers (record : FunctionRecord) : List Nat :=
  List.range' record.startLine (record.endLine + 1 - record.startLine)

/-- The rows list the source of a function that stands in a file. -/
structure Lists (record : FunctionRecord) (source : List Char) (rows : List Row) : Prop where
  /-- The rows are printed one below the other. -/
  listing : numberedSource record = joinLines (rows.map Row.text)
  /-- Each row is one line of the listing. -/
  apart : ∀ row ∈ rows, '\n' ∉ row.text
  /-- The rows hold the lines of the function. -/
  lines : rows.map Row.line = textLines record.sourceSlice.toList
  /-- There is a row for each line number, but the last one when the last line is empty. -/
  numbers : rows.map Row.number =
    if (splitLines record.sourceSlice.toList).getLast? = some [] then
      (lineNumbers record).dropLast
    else lineNumbers record
  /-- No number lies outside of the function. -/
  inside : ∀ row ∈ rows, record.startLine ≤ row.number ∧ row.number ≤ record.endLine
  /-- The number is that of the line in the file. -/
  placed : ∀ row ∈ rows, (splitLines source)[row.number - 1]? = some row.line ∨
    (splitLines source)[row.number - 1]? = some (row.line ++ ['\r'])
  /-- Numbers end where the last line number does. -/
  printed : ∀ row ∈ rows, row.Printed (Nat.repr record.endLine).length
  /-- The bars stand in one column. -/
  bar : ∀ row ∈ rows, row.text.idxOf '|' = (Nat.repr record.endLine).length + 1

/-- The row of a line in a listing. -/
def rowOf (record : FunctionRecord) (line : Line) (place : Nat) : Row :=
  { number := record.startLine + place
    line := line
    text := alignRight (Nat.repr record.endLine).length (record.startLine + place) ++
      [' ', '|', ' '] ++ line }

/-- The rows of the listing of a function. -/
def rowsOf (record : FunctionRecord) : List Row :=
  (textLines record.sourceSlice.toList).zipIdx.map fun (line, place) => rowOf record line place

/-- Each row shows a line of the text at its place. -/
theorem exists_of_mem_rowsOf {record : FunctionRecord} {row : Row} (listed : row ∈ rowsOf record) :
    ∃ line place, (textLines record.sourceSlice.toList)[place]? = some line ∧
      row = rowOf record line place := by
  obtain ⟨⟨line, place⟩, inside, rfl⟩ := List.mem_map.mp listed
  exact ⟨line, place, List.mem_zipIdx_iff_getElem?.mp inside, rfl⟩

/-- Rows are numbered from the first line on. -/
theorem map_number_rowsOf (record : FunctionRecord) :
    (rowsOf record).map Row.number =
      List.range' record.startLine (textLines record.sourceSlice.toList).length := by
  have places := List.zipIdx_map_snd 0 (textLines record.sourceSlice.toList)
  calc (rowsOf record).map Row.number
      = ((textLines record.sourceSlice.toList).zipIdx.map Prod.snd).map (record.startLine + ·) := by
        rw [rowsOf, List.map_map, List.map_map]
        rfl
    _ = List.range' record.startLine (textLines record.sourceSlice.toList).length := by
        rw [places, List.map_add_range', Nat.add_zero]

section Spans

variable {record : FunctionRecord} {source : List Char} (spans : record.Spans source)

include spans

/-- A function has as many lines as it has line numbers. -/
theorem length_splitLines_sourceSlice :
    (splitLines record.sourceSlice.toList).length = record.endLine + 1 - record.startLine := by
  have count := length_splitLines source
  have starts := spans.starts
  have inside := spans.inside
  rw [spans.splitLines_sourceSlice, linesBetween, List.length_take, List.length_drop]
  omega

/-- The rows have the line numbers of the function, but for an empty last line. -/
theorem map_number_rowsOf_eq :
    (rowsOf record).map Row.number =
      if (splitLines record.sourceSlice.toList).getLast? = some [] then
        (lineNumbers record).dropLast
      else lineNumbers record := by
  rw [map_number_rowsOf, textLines, length_terminatedLines, length_splitLines_sourceSlice spans,
    lineNumbers]
  split
  · obtain ⟨count, same⟩ : ∃ count, record.endLine + 1 - record.startLine = count + 1 :=
      ⟨record.endLine - record.startLine, by have := spans.ordered; omega⟩
    rw [same, List.range'_concat, List.dropLast_concat, Nat.add_sub_cancel]
  · rfl

/-- The number of a row is a line number of the function. -/
theorem number_mem_lineNumbers {row : Row} (listed : row ∈ rowsOf record) :
    row.number ∈ lineNumbers record := by
  have number : row.number ∈ (rowsOf record).map Row.number := List.mem_map_of_mem listed
  rw [map_number_rowsOf_eq spans] at number
  split at number
  · exact List.mem_of_mem_dropLast number
  · exact number

/-- A line of the function in its place is a line of the file. -/
theorem getElem?_splitLines_sourceSlice {place : Nat} {line : Line}
    (found : (splitLines record.sourceSlice.toList)[place]? = some line) :
    (splitLines source)[record.startLine + place - 1]? = some line := by
  have starts := spans.starts
  have within := (List.getElem?_eq_some_iff.mp found).1
  rw [length_splitLines_sourceSlice spans] at within
  rw [spans.splitLines_sourceSlice, linesBetween, List.getElem?_take_of_lt within,
    List.getElem?_drop] at found
  rwa [Nat.sub_add_comm starts]

/-- The source of a function that takes lines of a file is listed by its rows. -/
theorem lists_rowsOf : Lists record source (rowsOf record) := by
  have inside : ∀ row ∈ rowsOf record,
      record.startLine ≤ row.number ∧ row.number ≤ record.endLine := by
    intro row listed
    have number := List.mem_range'_1.mp (number_mem_lineNumbers spans listed)
    omega
  have printed : ∀ row ∈ rowsOf record, row.Printed (Nat.repr record.endLine).length := by
    intro row listed
    have within := (inside row listed).2
    obtain ⟨line, place, _, rfl⟩ := exists_of_mem_rowsOf listed
    exact alignRight_printed line (length_repr_le within)
  refine
    { listing := ?_
      apart := ?_
      lines := ?_
      numbers := map_number_rowsOf_eq spans
      inside := inside
      placed := ?_
      printed := printed
      bar := fun row listed => (printed row listed).idxOf_bar }
  · rw [numberedSource, rowsOf, List.map_map]
    rfl
  · intro row listed
    have one := printed row listed
    obtain ⟨line, place, found, rfl⟩ := exists_of_mem_rowsOf listed
    exact one.single (not_mem_of_mem_textLines (List.mem_of_getElem? found))
  · rw [rowsOf, List.map_map]
    exact List.zipIdx_map_fst 0 _
  · intro row listed
    obtain ⟨line, place, found, rfl⟩ := exists_of_mem_rowsOf listed
    exact (getElem?_terminatedLines found).imp (getElem?_splitLines_sourceSlice spans)
      (getElem?_splitLines_sourceSlice spans)

end Spans

end Report

/-! ## Functions of an analysis -/

namespace Snapshot

/-- Every function takes lines of the source. -/
def SpansLines (snapshot : Snapshot) (source : List Char) : Prop :=
  ∀ record ∈ snapshot.functions, record.Spans source

/-- A snapshot that is taken of a file has functions of that file. -/
theorem spansLines_take (options : Options) (filename : String) (source : List Char) :
    (take options filename source).1.SpansLines source := by
  intro record listed
  change record ∈ (ofLanguage (take options filename source).1.language options.window
    source).1.functions at listed
  rw [ofLanguage_outline] at listed
  split at listed
  · exact spans_of_mem_byGrammar listed
  · exact (spans_of_mem_byLine listed).1

end Snapshot

/-- An answer about a function leaves its lines as they are. -/
theorem FunctionRecord.Spans.applyAnswer {record : FunctionRecord} {source : List Char}
    (spans : record.Spans source) (answer : Except Failure String) :
    (Assistant.applyAnswer record answer).1.Spans source := by
  fun_cases Assistant.applyAnswer record answer with
  | case1 => exact spans
  | case2 => exact ⟨spans.starts, spans.ordered, spans.inside, spans.text⟩
  | case3 => exact spans

/-- Functions keep their lines when they are given summaries. -/
theorem Assistant.enhanceRecords_spans (assistant : Assistant) (language : Language)
    {source : List Char} {records : List FunctionRecord}
    (spans : ∀ record ∈ records, record.Spans source) :
    ∀ record ∈ (assistant.enhanceRecords language records).value.1, record.Spans source := by
  induction records with
  | nil => exact spans
  | cons first rest ih =>
    obtain ⟨own, others⟩ := List.forall_mem_cons.mp spans
    rw [enhanceRecords]
    split
    · exact List.forall_mem_cons.mpr ⟨own.applyAnswer _, ih others⟩
    · exact List.forall_mem_cons.mpr ⟨own, ih others⟩

/-- For every file, all options and any assistants asked one after the other, the listing of each
function has a row for each of its lines: the lines are those of its source as they are terminated,
in order, with their numbers in the file, each in the column of the last line number. Every number
lies between the first and the last, so the first bar stands in the same column on every row. There
is a row for each line number but the last, and one for the last exactly if the last line of the
source is not empty. -/
theorem numberedSource_lists_lines (options : Snapshot.Options) (filename : String)
    (source : List Char) (assistants : List Assistant) :
    let snapshot := assistants.foldl (fun left assistant => (assistant.enhance left).value.snapshot)
      (Snapshot.take options filename source).1
    ∀ record ∈ snapshot.functions, ∃ rows, Report.Lists record source rows := by
  intro snapshot record listed
  have spans : snapshot.SpansLines source := by
    refine List.foldlRecOn (motive := fun left : Snapshot => left.SpansLines source) assistants _
      (Snapshot.spansLines_take options filename source) ?_
    exact fun left kept assistant _ => assistant.enhanceRecords_spans left.language kept
  exact ⟨Report.rowsOf record, Report.lists_rowsOf (spans record listed)⟩

/-- A function from the ninth line on, with a carriage return in its first line and a line feed at
its end. -/
def lateSource : List Char := "\n\n\n\n\n\n\n\nfunc a() \x7b\r\n\x7d\n".toList

/-- The function takes three lines of which the last is empty, and its listing has two rows. -/
theorem numberedSource_lateSource :
    ∃ record ∈ (Snapshot.take {} "a.go" lateSource).1.functions,
      (record.startLine, record.endLine) = (9, 11) ∧
      Report.numberedSource record = " 9 | func a() \x7b\n10 | \x7d".toList ∧
      ∃ rows, Report.Lists record lateSource rows ∧ rows.map (·.number) = [9, 10] := by
  have functions : (Snapshot.take {} "a.go" lateSource).1.functions.map
      (fun record => (record.startLine, record.endLine, record.sourceSlice,
        Report.numberedSource record)) =
      [(9, 11, "func a() \x7b\r\n\x7d\n", " 9 | func a() \x7b\n10 | \x7d".toList)] := by
    decide +kernel
  obtain ⟨record, listed, same⟩ := List.mem_map.mp (functions ▸ List.mem_singleton_self _)
  obtain ⟨start, stop, slice, listing⟩ :
      record.startLine = 9 ∧ record.endLine = 11 ∧
      record.sourceSlice = "func a() \x7b\r\n\x7d\n" ∧
      Report.numberedSource record = " 9 | func a() \x7b\n10 | \x7d".toList := by
    simpa using same
  obtain ⟨rows, lists⟩ := numberedSource_lists_lines {} "a.go" lateSource [] record listed
  refine ⟨record, listed, by rw [start, stop], listing, rows, lists, ?_⟩
  rw [lists.numbers, Report.lineNumbers, start, stop, slice]
  decide

end SourceOutline
