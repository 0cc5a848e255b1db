import Mathlib.Data.List.Forall2
import SourceOutline.Proofs.Outline.BlankLines
import SourceOutline.Proofs.Outline.Locality
import SourceOutline.Proofs.Outline.ParameterText

/-!
# Functions in a smaller window

The window of an outline by line patterns says how many lines a function takes, and nothing else
depends on it. In a smaller window the same names are found in the same lines. A function takes the
first of the lines that it takes in a larger window, and its parameters are the same where their
list is closed inside the smaller window. Where it is not, there are none.
-/

namespace SourceOutline.Outline

open Text

/-! ## Lists that are closed early -/

/-- A character closes the list, whatever follows it, or the list goes on behind it. -/
theorem closedList?_cons (quotes : List Char) (depth : Nat) (state : StringState) (c : Char) :
    (c = ')' ∧ ∀ rest, closedList? quotes depth state (c :: rest) = some []) ∨
    ∃ deeper next, ∀ rest, closedList? quotes depth state (c :: rest) =
      (closedList? quotes deeper next rest).map (c :: ·) := by
  by_cases closes : IsBare quotes state c ∧ c = ')' ∧ depth ≤ 1
  · exact Or.inl ⟨closes.2.1, fun rest => by rw [closedList?_cons_eq, if_pos closes]⟩
  · exact Or.inr ⟨_, _, fun rest => by rw [closedList?_cons_eq, if_neg closes]⟩

/-- The first lines of a text close a list just when the whole text closes it in these lines. -/
theorem closedList?_of_first_lines (quotes : List Char) (depth : Nat) (state : StringState)
    (front : List Char) {after : List Char} (ends : after = [] ∨ after.head? = some '\n') :
    closedList? quotes depth state front =
      (closedList? quotes depth state (front ++ after)).filter
        (·.count '\n' ≤ front.count '\n') := by
  induction front generalizing depth state with
  | nil =>
    rcases ends with rfl | feed
    · rfl
    · obtain ⟨tail, rfl⟩ := List.head?_eq_some_iff.mp feed
      obtain ⟨closes, _⟩ | ⟨deeper, next, step⟩ := closedList?_cons quotes depth state '\n'
      · contradiction
      · -- Such a list would hold the line feed.
        rw [List.nil_append, step, Option.filter_map]
        simp [closedList?, Function.comp_def]
  | cons c front ih =>
    obtain ⟨_, step⟩ | ⟨deeper, next, step⟩ := closedList?_cons quotes depth state c
    · rw [List.cons_append, step, step]
      simp [Option.filter_some]
    · -- The character counts in the list and in the text alike.
      have same : (fun raw : List Char => decide (raw.count '\n' ≤ (c :: front).count '\n')) ∘
          (c :: ·) = fun raw => decide (raw.count '\n' ≤ front.count '\n') := by
        funext raw
        simp [List.count_cons]
      rw [List.cons_append, step, step, Option.filter_map, same, ih]

/-- In a smaller window the parameters are those of a larger one, if they end inside it. -/
theorem parameterText?_take (quotes : List Char) {rest : List Char} {below : List Line}
    (plain : ∀ line ∈ rest :: below, '\n' ∉ line) {narrow wide : Nat} (less : narrow ≤ wide) :
    parameterText? quotes rest (below.take narrow) =
      (parameterText? quotes rest (below.take wide)).filter
        (·.count '\n' ≤ (below.take narrow).length) := by
  rw [parameterText?, parameterText?]
  split
  · rfl
  · obtain ⟨more, whole⟩ : below.take narrow <+: below.take wide :=
      List.take_prefix_take_left less
    generalize (rest.takeWhile (· != '(')).length + 1 = opening
    have lines : ∀ line ∈ rest.drop opening :: below.take narrow, '\n' ∉ line := by
      intro line listed
      rcases List.mem_cons.mp listed with rfl | later
      · exact fun feed => plain rest List.mem_cons_self (List.mem_of_mem_drop feed)
      · exact plain line (List.mem_cons_of_mem _ (List.mem_of_mem_take later))
    have count := length_splitLines (joinLines (rest.drop opening :: below.take narrow))
    rw [splitLines_joinLines (List.cons_ne_nil _ _) lines, List.length_cons] at count
    obtain ⟨after, joined, ends⟩ :=
      joinLines_append_left (List.cons_ne_nil (rest.drop opening) (below.take narrow)) more
    rw [← whole, ← List.cons_append, joined, closedList?_of_first_lines quotes 1 .outside _ ends,
      Nat.succ.inj count]

/-! ## Functions with their parameter lists -/

/-- What line patterns find about a function. -/
structure FoundFunction where
  /-- The record of the outline. -/
  record : FunctionRecord
  /-- The declaration of the outline. -/
  node : Declaration
  /-- The text between the parentheses behind the name, if they close inside the window. -/
  parameterText : Option (List Char)

/-- A function in a smaller window, and the same in a larger one. -/
structure FoundFunction.Narrows (narrow wide : FoundFunction) : Prop where
  /-- The name does not depend on the window. -/
  name : narrow.record.name = wide.record.name
  /-- The first line does not depend on the window. -/
  startLine : narrow.record.startLine = wide.record.startLine
  /-- Whether there is documentation does not depend on the window. -/
  summarySource : narrow.record.summarySource = wide.record.summarySource
  /-- Documentation does not depend on the window. -/
  documentation : narrow.record.summarySource = .docComment →
    narrow.record.summary = wide.record.summary
  /-- The last line is not behind that of the larger window. -/
  endLine : narrow.record.endLine ≤ wide.record.endLine
  /-- The text is the first lines of that of the larger window. -/
  lines : splitLines narrow.record.sourceSlice.toList <+:
    splitLines wide.record.sourceSlice.toList
  /-- The parameter list is that of the larger window, if it is closed in a line of the function. -/
  parameterText : narrow.parameterText = wide.parameterText.filter fun raw =>
    narrow.record.startLine + raw.count '\n' ≤ narrow.record.endLine
  /-- Where the list is closed the parameters are the same, and else there are none. -/
  parameterNames : narrow.node.parameterNames =
    if narrow.parameterText.isSome then wide.node.parameterNames else []
  /-- A summary without documentation depends on the parameter list alone. -/
  summary : narrow.parameterText = wide.parameterText →
    narrow.record.summary = wide.record.summary

/-- The text between the parentheses behind the name of an offer. -/
def Offer.parameterText? (table : Table) (window : Nat) (lines : List Line) (offer : Offer) :
    Option (List Char) :=
  Outline.parameterText? table.quotes.toList offer.found.after
    ((lines.drop (offer.index + 1)).take (window - 1))

/-- What is found about an offer. -/
def Offer.function (table : Table) (window : Nat) (lines : List Line) (offer : Offer) :
    FoundFunction :=
  ⟨offer.record table window lines, offer.node table window lines,
    offer.parameterText? table window lines⟩

/-- The functions that line patterns find, with their parameter lists. -/
def foundFunctions (language : Language) (window : Nat) (source : List Char) :
    List FoundFunction :=
  match Table.forLanguage? language with
  | none => []
  | some table =>
    let lines := splitLines source
    ((firstOffers (offers table lines)).filter (·.kind = .function)).map
      (Offer.function table (max window 1) lines)

/-- The functions are those of the outline. -/
theorem foundFunctions_eq (language : Language) (window : Nat) (source : List Char) :
    (foundFunctions language window source).map (·.record) =
      (byLine language window source).functions ∧
    (foundFunctions language window source).map (·.node) =
      (byLine language window source).tree.filter (·.kind = .function) := by
  cases known : Table.forLanguage? language with
  | none => simp [foundFunctions, byLine, known]
  | some table =>
    have shown := readLines_shows_firstOffers table (max window 1) (splitLines source)
    simp only [foundFunctions, byLine, known, byTable]
    constructor
    · rw [shown.functions, List.map_map]
      rfl
    · rw [shown.tree, filter_kind_nodes, List.map_map]
      rfl

section Lines

variable (table : Table) {lines : List Line} {offer : Offer}

/-- The parameters of an offer are the names of its list. -/
theorem Offer.parameters_eq (window : Nat) (lines : List Line) (offer : Offer) :
    (offer.description table window lines).2 =
      match offer.parameterText? table window lines with
      | none => []
      | some raw => (parameterNames table.style table.quotes.toList raw).map String.ofList :=
  rfl

variable {narrow wide : Nat}

/-- A parameter list in a smaller window. -/
theorem Offer.parameterText?_narrow (plain : ∀ line ∈ lines, '\n' ∉ line)
    (listed : offer ∈ offers table lines) (less : narrow ≤ wide) :
    offer.parameterText? table narrow lines =
      (offer.parameterText? table wide lines).filter fun raw =>
        offer.index + 1 + raw.count '\n' ≤ (offer.record table narrow lines).endLine := by
  obtain ⟨line, here, cut⟩ := line_of_mem_offers listed
  have own : '\n' ∉ offer.found.after := fun feed =>
    plain line (List.mem_of_getElem? here) (cut ▸ List.mem_append_right _ feed)
  have below : ∀ other ∈ lines.drop (offer.index + 1), '\n' ∉ other := fun other later =>
    plain other (List.mem_of_mem_drop later)
  have bound (raw : List Char) : (offer.index + 1 + raw.count '\n' ≤
      (offer.record table narrow lines).endLine) =
      (raw.count '\n' ≤ ((lines.drop (offer.index + 1)).take (narrow - 1)).length) := by
    change (_ ≤ offer.index + 1 + ((lines.drop (offer.index + 1)).take (narrow - 1)).length) = _
    rw [Nat.add_le_add_iff_left]
  simp only [bound]
  exact parameterText?_take _ (List.forall_mem_cons.mpr ⟨own, below⟩) (Nat.sub_le_sub_right less 1)

/-- The parameters in a smaller window are those of a larger one, or there are none. -/
theorem Offer.parameters_narrow (plain : ∀ line ∈ lines, '\n' ∉ line)
    (listed : offer ∈ offers table lines) (less : narrow ≤ wide) :
    (offer.description table narrow lines).2 =
      if (offer.parameterText? table narrow lines).isSome then
        (offer.description table wide lines).2 else [] := by
  have closing := Offer.parameterText?_narrow table plain listed less
  rw [Offer.parameters_eq, Offer.parameters_eq]
  cases closed : offer.parameterText? table narrow lines with
  | none => rfl
  | some raw =>
    rw [closed] at closing
    rw [(Option.filter_eq_some_iff.mp closing.symm).1]
    rfl

/-- A summary depends on the window through the parameters, if there is no documentation. -/
theorem Offer.summary_congr (window other : Nat) (lines : List Line) (offer : Offer) :
    (offer.record table window lines).summarySource =
      (offer.record table other lines).summarySource ∧
    ((offer.record table window lines).summarySource = .docComment ∨
        (offer.description table window lines).2 = (offer.description table other lines).2 →
      (offer.record table window lines).summary = (offer.record table other lines).summary) := by
  have summary (window : Nat) := offer.record_summary table window lines
  rcases summary window with ⟨text, found, source, same⟩ | ⟨missing, source, same⟩
  · rcases summary other with ⟨again, foundAgain, otherSource, otherSame⟩ | ⟨none, _⟩
    · obtain rfl := Option.some.inj (found.symm.trans foundAgain)
      exact ⟨source.trans otherSource.symm, fun _ => same.trans otherSame.symm⟩
    · exact nomatch found.symm.trans none
  · rcases summary other with ⟨text, found, _⟩ | ⟨_, otherSource, otherSame⟩
    · exact nomatch found.symm.trans missing
    · refine ⟨source.trans otherSource.symm, fun either => ?_⟩
      rcases either with documented | parameters
      · exact nomatch source.symm.trans documented
      · exact same.trans ((congrArg synthesizeSummary parameters).trans otherSame.symm)

/-- An offered function in two windows. -/
theorem Offer.function_narrows (plain : ∀ line ∈ lines, '\n' ∉ line)
    (listed : offer ∈ offers table lines) (function : offer.kind = .function)
    (filled : 1 ≤ narrow) (less : narrow ≤ wide) :
    (offer.function table narrow lines).Narrows (offer.function table wide lines) := by
  obtain ⟨line, here, _⟩ := line_of_mem_offers listed
  have inside := (List.getElem?_eq_some_iff.mp here).1
  obtain ⟨narrowEnd, narrowText⟩ := Offer.record_window table here filled
  obtain ⟨wideEnd, wideText⟩ := Offer.record_window table here (Nat.le_trans filled less)
  have cutApart {window : Nat} (filled : 1 ≤ window) :
      splitLines (joinLines ((lines.drop offer.index).take window)) =
        (lines.drop offer.index).take window := by
    refine splitLines_joinLines ?_ fun other later =>
      plain other (List.mem_of_mem_drop (List.mem_of_mem_take later))
    rw [← List.length_pos_iff, List.length_take, List.length_drop]
    omega
  have parameters := Offer.parameters_narrow table plain listed less
  obtain ⟨origin, summary⟩ := Offer.summary_congr table narrow wide lines offer
  exact
    { name := rfl
      startLine := rfl
      summarySource := origin
      documentation := fun documented => summary (Or.inl documented)
      endLine := by
        change (offer.record table narrow lines).endLine ≤ (offer.record table wide lines).endLine
        omega
      lines := by
        change splitLines (offer.record table narrow lines).sourceSlice.toList <+:
          splitLines (offer.record table wide lines).sourceSlice.toList
        rw [narrowText, wideText, cutApart filled, cutApart (Nat.le_trans filled less)]
        exact List.take_prefix_take_left less
      parameterText := Offer.parameterText?_narrow table plain listed less
      parameterNames := by
        change (offer.node table narrow lines).parameterNames =
          if (offer.parameterText? table narrow lines).isSome then
            (offer.node table wide lines).parameterNames else []
        simp only [Offer.node, function, parameters]
        split <;> rfl
      summary := fun same => by
        have texts : offer.parameterText? table narrow lines =
          offer.parameterText? table wide lines := same
        refine summary (Or.inr ?_)
        rw [Offer.parameters_eq, Offer.parameters_eq, texts] }

/-- A window of as many lines as there are is as good as any larger one. -/
theorem Offer.description_of_long (offer : Offer) {narrow wide : Nat} (less : narrow ≤ wide)
    (long : lines.length ≤ narrow) :
    offer.description table narrow lines = offer.description table wide lines := by
  have rest : (lines.drop (offer.index + 1)).length ≤ narrow - 1 := by
    rw [List.length_drop]
    omega
  refine describe_congr table _ _ _ _ ?_
  rw [List.take_of_length_le rest, List.take_of_length_le (by omega)]

end Lines

/-! ## Outlines in two windows -/

/-- What is named does not depend on the window. -/
theorem readLines_names_congr (table : Table) (window other : Nat) (lines : List Line) :
    (readLines table window {} [] 0 lines).names = (readLines table other {} [] 0 lines).names := by
  have all := @readLines_names_filter table (fun _ => true) nofun window other lines {} [] [] 0 0
  rwa [List.filter_true] at all

/-- Windows of at least as many lines as the source has give one outline. -/
theorem byLine_of_long (language : Language) {narrow wide : Nat} (less : narrow ≤ wide)
    {source : List Char} (long : (splitLines source).length ≤ narrow) :
    byLine language narrow source = byLine language wide source := by
  cases known : Table.forLanguage? language with
  | none => simp only [byLine, known]
  | some table =>
    have names := readLines_names_congr table (max narrow 1) (max wide 1) (splitLines source)
    have narrowShown := readLines_shows_firstOffers table (max narrow 1) (splitLines source)
    have wideShown := readLines_shows_firstOffers table (max wide 1) (splitLines source)
    have same (offer : Offer) : offer.description table (max narrow 1) (splitLines source) =
        offer.description table (max wide 1) (splitLines source) :=
      offer.description_of_long table (by omega) (by omega)
    have records : Offer.record table (max narrow 1) (splitLines source) =
        Offer.record table (max wide 1) (splitLines source) := by
      funext offer
      rw [Offer.record, same, ← Offer.record]
    have nodes : Offer.node table (max narrow 1) (splitLines source) =
        Offer.node table (max wide 1) (splitLines source) := by
      funext offer
      rw [Offer.node, same, ← Offer.node]
    have libraries := congrArg Names.libraries names
    simp only [Findings.names] at libraries
    simp only [byLine, known, byTable, narrowShown.functions, narrowShown.tree,
      wideShown.functions, wideShown.tree, libraries, records, nodes]

/-- For every language and source, a smaller window finds the same libraries, the same kinds and
names of declarations, and function by function the same name, first line and documentation. A
function ends no later and takes the first lines of those that it takes in the larger window. Its
parameter list is the same if it is closed within these lines, and else there are no parameters.
Windows of at least as many lines as the source has give one outline, and the window without lines
gives that of one line. -/
theorem byLine_narrow_window (language : Language) {narrow wide : Nat} (less : narrow ≤ wide)
    (source : List Char) :
    (∀ window,
      (foundFunctions language window source).map (·.record) =
        (byLine language window source).functions ∧
      (foundFunctions language window source).map (·.node) =
        (byLine language window source).tree.filter (·.kind = .function)) ∧
    (byLine language narrow source).libraries = (byLine language wide source).libraries ∧
    (byLine language narrow source).tree.map nameOf =
      (byLine language wide source).tree.map nameOf ∧
    List.Forall₂ FoundFunction.Narrows (foundFunctions language narrow source)
      (foundFunctions language wide source) ∧
    ((splitLines source).length ≤ narrow →
      byLine language narrow source = byLine language wide source) ∧
    byLine language 0 source = byLine language 1 source := by
  refine ⟨fun window => foundFunctions_eq language window source, ?_⟩
  rw [← and_assoc, ← and_assoc]
  refine ⟨?_, fun long => byLine_of_long language less long, rfl⟩
  cases known : Table.forLanguage? language with
  | none => simp [byLine, foundFunctions, known]
  | some table =>
    have names := readLines_names_congr table (max narrow 1) (max wide 1) (splitLines source)
    simp only [byLine, foundFunctions, known, byTable]
    refine ⟨⟨congrArg (LibrarySet.ofList ·.libraries) names,
      congrArg (·.declarations) names⟩, ?_⟩
    rw [List.forall₂_map_left_iff, List.forall₂_map_right_iff, List.forall₂_same]
    intro offer kept
    obtain ⟨first, function⟩ := List.mem_filter.mp kept
    exact Offer.function_narrows table (not_mem_of_mem_splitOn '\n' source)
      (mem_of_mem_firstOffers first) (by simpa using function) (Nat.le_max_right _ _) (by omega)

/-- Two functions, of which the first has its parameters over three lines, with a parenthesis in a
string. -/
def spreadSource : List Char :=
  "function add(a,\n  b = ')',\n  c) \x7b\n// Stops\nfunction stop(d) \x7b".toList

/-- Two lines do not close the first list, and the largest window is that of the five lines. -/
theorem byLine_spreadSource :
    (foundFunctions .javaScript 2 spreadSource).map (fun found =>
        (found.record.summary, found.record.endLine, found.node.parameterNames)) =
      [("Function with no parameters", 2, []), ("Stops", 5, ["d"])] ∧
    (foundFunctions .javaScript 5 spreadSource).map (fun found =>
        (found.record.summary, found.record.endLine, found.node.parameterNames)) =
      [("Function with parameters: a, b, c", 5, ["a", "b", "c"]), ("Stops", 5, ["d"])] ∧
    List.Forall₂ FoundFunction.Narrows (foundFunctions .javaScript 2 spreadSource)
      (foundFunctions .javaScript 5 spreadSource) ∧
    byLine .javaScript 5 spreadSource = byLine .javaScript 18446744073709551615 spreadSource ∧
    byLine .javaScript 0 spreadSource = byLine .javaScript 1 spreadSource := by
  obtain ⟨_, _, _, narrows, _, none⟩ :=
    byLine_narrow_window .javaScript (show 2 ≤ 5 by decide) spreadSource
  obtain ⟨_, _, _, _, long, _⟩ :=
    byLine_narrow_window .javaScript (show 5 ≤ 18446744073709551615 by decide) spreadSource
  exact ⟨by decide +kernel, by decide +kernel, narrows, long (by decide +kernel), none⟩

end SourceOutline.Outline
