import SourceOutline.Proofs.Outline.Windows
import SourceOutline.Proofs.Text.Trim

/-!
# Where parameter names stand

The parameters of a function that line patterns find are named in its own lines. Its parameter text
stands between parentheses behind its name, the parts of this text make up the whole of it, and each
name is taken from its own part. So the names stand in the text one behind the other. A summary
without documentation lists them all, and it says which they are (`synthesizeSummary_inj`).
-/

namespace SourceOutline.Outline

open Text

/-! ## Identifiers -/

/-- An ASCII letter or an underscore. -/
def IsLetter (c : Char) : Prop := ('A' ≤ c ∧ c ≤ 'Z') ∨ ('a' ≤ c ∧ c ≤ 'z') ∨ c = '_'

/-- An ASCII digit. -/
def IsDigit (c : Char) : Prop := '0' ≤ c ∧ c ≤ '9'

/-- A letter, and letters and digits behind it. -/
def IsIdentifier : List Char → Prop
  | [] => False
  | c :: rest => IsLetter c ∧ ∀ d ∈ rest, IsLetter d ∨ IsDigit d

/-- A name starts with a letter or underscore. -/
theorem isAsciiStart_iff (c : Char) : isAsciiStart c = true ↔ IsLetter c := by
  simp [isAsciiStart, IsLetter, Char.isAlpha, Char.isUpper, Char.isLower, Char.le_def, or_assoc]

/-- A name goes on with letters, underscores and digits. -/
theorem isAsciiPart_iff (c : Char) : isAsciiPart c = true ↔ IsLetter c ∨ IsDigit c := by
  simp [isAsciiPart, IsLetter, IsDigit, Char.isAlphanum, Char.isAlpha, Char.isUpper, Char.isLower,
    Char.isDigit, Char.le_def]
  tauto

/-- The identifiers of a text stand in it. While one is being read, its rest begins the text. -/
theorem asciiIdentifiers_spec (text : List Char) :
    (∀ name ∈ asciiIdentifiers false text, IsIdentifier name ∧ name <:+: text) ∧
    ∃ rest names, asciiIdentifiers true text = rest :: names ∧
      (rest <+: text ∧ ∀ c ∈ rest, IsLetter c ∨ IsDigit c) ∧
      ∀ name ∈ names, IsIdentifier name ∧ name <:+: text := by
  induction text with
  | nil => exact ⟨by simp [asciiIdentifiers], [], [], rfl, by simp, by simp⟩
  | cons c text ih =>
    obtain ⟨fresh, rest, names, going, ⟨begins, parts⟩, others⟩ := ih
    have later {listed : List (List Char)}
        (inside : ∀ name ∈ listed, IsIdentifier name ∧ name <:+: text) :
        ∀ name ∈ listed, IsIdentifier name ∧ name <:+: c :: text := fun name member =>
      ⟨(inside name member).1, (inside name member).2.trans (List.suffix_cons c text).isInfix⟩
    have longer : c :: rest <+: c :: text := List.cons_prefix_cons.mpr ⟨rfl, begins⟩
    constructor
    · rw [asciiIdentifiers, if_neg (by simp)]
      split
      · next starts =>
        rw [going, growFirst]
        refine List.forall_mem_cons.mpr ⟨⟨⟨?_, parts⟩, longer.isInfix⟩, later others⟩
        exact (isAsciiStart_iff c).mp starts
      · exact later fresh
    · rw [asciiIdentifiers, if_pos rfl]
      split
      · next more =>
        rw [going, growFirst]
        refine ⟨c :: rest, names, rfl, ⟨longer, ?_⟩, later others⟩
        exact List.forall_mem_cons.mpr ⟨(isAsciiPart_iff c).mp more, parts⟩
      · exact ⟨[], _, rfl, by simp, later fresh⟩

/-- The name of a part is an identifier that stands in it. -/
theorem parameterName?_spec {style : ParameterStyle} {part name : List Char}
    (found : parameterName? style part = some name) : IsIdentifier name ∧ name <:+: part := by
  have declaration : trim (part.takeWhile (· != '=')) <:+: part :=
    (isInfix_trim _).trans (List.takeWhile_prefix _).isInfix
  have spec (text : List Char) := (asciiIdentifiers_spec text).1 name
  cases style with
  | colonTyped =>
    dsimp only [parameterName?] at found
    obtain ⟨identifier, inside⟩ := spec _ (List.mem_of_getLast? found)
    exact ⟨identifier, (inside.trans (List.takeWhile_prefix _).isInfix).trans declaration⟩
  | typeFirst =>
    dsimp only [parameterName?] at found
    split at found
    · contradiction
    · obtain ⟨identifier, inside⟩ := spec _ (List.mem_of_getLast? found)
      exact ⟨identifier, inside.trans declaration⟩
  | nameFirst =>
    dsimp only [parameterName?] at found
    obtain ⟨identifier, inside⟩ := spec _ (List.mem_of_mem_head? found)
    exact ⟨identifier, inside.trans declaration⟩

/-! ## Names in order -/

/-- The names stand in the text, each behind the one before it. -/
def StandInOrder : List (List Char) → List Char → Prop
  | [], _ => True
  | name :: names, text => ∃ front rest, text = front ++ name ++ rest ∧ StandInOrder names rest

/-- Names stay in order in a longer text. -/
theorem StandInOrder.append_left {names : List (List Char)} {text : List Char}
    (stand : StandInOrder names text) (front : List Char) : StandInOrder names (front ++ text) := by
  cases names with
  | nil => trivial
  | cons name names =>
    obtain ⟨gap, rest, rfl, others⟩ := stand
    exact ⟨front ++ gap, rest, by simp, others⟩

/-- Names in order in two texts are in order in the joined text. -/
theorem StandInOrder.append {early late : List (List Char)} {front back : List Char}
    (first : StandInOrder early front) (second : StandInOrder late back) :
    StandInOrder (early ++ late) (front ++ back) := by
  induction early generalizing front with
  | nil => exact second.append_left front
  | cons name names ih =>
    obtain ⟨gap, rest, rfl, others⟩ := first
    exact ⟨gap, rest ++ back, by simp, ih others⟩

/-- The parts of a parameter text, with commas between them, are the text. -/
theorem intercalate_splitParameters (quotes : List Char) (depth : Nat) (state : StringState)
    (previous : Char) (text : List Char) :
    [','].intercalate (splitParameters quotes depth state previous text) = text := by
  induction text generalizing depth state previous with
  | nil => rfl
  | cons c rest ih =>
    obtain ⟨deeper, step⟩ := splitParameters_cons quotes depth state previous c
    have joined := ih deeper (state.next quotes c) c
    obtain ⟨part, parts, cut⟩ := List.exists_cons_of_ne_nil
      (splitParameters_ne_nil quotes deeper (state.next quotes c) c rest)
    rw [cut] at joined
    rcases step with ⟨rfl, cuts⟩ | grows
    · rw [cuts, cut, List.intercalate_cons_cons, joined]
      rfl
    · rw [grows, cut, growFirst, ← joined]
      exact intercalate_append_cons [','] [c] part parts

/-- The names that the parts give stand in the joined parts. -/
theorem standInOrder_filterMap (style : ParameterStyle) (parts : List (List Char)) :
    StandInOrder (parts.filterMap (parameterName? style)) ([','].intercalate parts) := by
  induction parts with
  | nil => trivial
  | cons part parts ih =>
    have own : StandInOrder (parameterName? style part).toList part := by
      cases found : parameterName? style part with
      | none => trivial
      | some name =>
        obtain ⟨front, back, cut⟩ := (parameterName?_spec found).2
        exact ⟨front, back, cut.symm, trivial⟩
    have names : (part :: parts).filterMap (parameterName? style) =
        (parameterName? style part).toList ++ parts.filterMap (parameterName? style) := by
      cases found : parameterName? style part with
      | none => rw [List.filterMap_cons_none found]; rfl
      | some name => rw [List.filterMap_cons_some found]; rfl
    rw [names]
    cases parts with
    | nil => simpa using own
    | cons next parts =>
      rw [List.intercalate_cons_cons, List.append_assoc]
      exact own.append (ih.append_left [','])

/-- The names of a parameter text are identifiers that stand in it in order. -/
theorem parameterNames_spec (style : ParameterStyle) (quotes raw : List Char) :
    (∀ name ∈ parameterNames style quotes raw, IsIdentifier name) ∧
    StandInOrder (parameterNames style quotes raw) raw := by
  constructor
  · intro name listed
    obtain ⟨part, _, found⟩ := List.mem_filterMap.mp listed
    exact (parameterName?_spec found).1
  · have stand := standInOrder_filterMap style (parameterParts quotes raw)
    rwa [parameterParts, intercalate_splitParameters] at stand

/-! ## Names in a summary -/

/-- No identifier holds a comma. -/
theorem IsIdentifier.comma_not_mem {name : List Char} (identifier : IsIdentifier name) :
    ',' ∉ name := by
  have letter : ¬ IsLetter ',' := by
    unfold IsLetter
    decide
  have digit : ¬ IsDigit ',' := by
    unfold IsDigit
    decide
  cases name with
  | nil => exact absurd identifier id
  | cons c rest =>
    obtain ⟨starts, parts⟩ := identifier
    rintro (_ | ⟨_, later⟩)
    · exact letter starts
    · exact (parts ',' later).elim letter digit

/-- Names without commas are read back from a list with commas and blanks between them. -/
theorem splitOn_intercalate_comma {first : List Char} {others : List (List Char)}
    (plain : ∀ name ∈ first :: others, ',' ∉ name) :
    (", ".toList.intercalate (first :: others)).splitOn ',' = first :: others.map (' ' :: ·) := by
  induction others generalizing first with
  | nil =>
    rw [List.intercalate_singleton]
    exact List.splitOn_eq_singleton (plain first List.mem_cons_self)
  | cons next others ih =>
    obtain ⟨own, rest⟩ := List.forall_mem_cons.mp plain
    have joined : ", ".toList.intercalate (first :: next :: others) =
        first ++ ',' :: ' ' :: ", ".toList.intercalate (next :: others) := by
      rw [List.intercalate_cons_cons, List.append_assoc]
      rfl
    rw [joined, List.splitOn_append_cons_self_of_not_mem own, List.splitOn_cons_eq_if_modifyHead,
      if_neg (by decide), ih rest]
    rfl

/-- The text of a summary that lists names. -/
theorem toList_synthesizeSummary_cons (first : String) (others : List String) :
    (synthesizeSummary (first :: others)).toList = "Function with parameters: ".toList ++
      ", ".toList.intercalate (first.toList :: others.map String.toList) := by
  rw [synthesizeSummary, if_neg (by simp), String.toList_append, String.toList_intercalate]
  rfl

/-- A summary that lists names is not that without any. -/
theorem synthesizeSummary_nil_ne (first : String) (others : List String) :
    synthesizeSummary [] ≠ synthesizeSummary (first :: others) := by
  intro same
  have text := congrArg String.toList same
  rw [toList_synthesizeSummary_cons] at text
  have starts : "Function with parameters: ".toList <+: (synthesizeSummary []).toList :=
    ⟨_, text.symm⟩
  exact absurd starts (by decide)

/-- A summary without documentation says which names it lists. -/
theorem synthesizeSummary_inj {left right : List String}
    (plainLeft : ∀ name ∈ left, IsIdentifier name.toList)
    (plainRight : ∀ name ∈ right, IsIdentifier name.toList)
    (same : synthesizeSummary left = synthesizeSummary right) : left = right := by
  have plain {names : List String} (identifiers : ∀ name ∈ names, IsIdentifier name.toList) :
      ∀ name ∈ names.map String.toList, ',' ∉ name := by
    intro name listed
    obtain ⟨text, inside, rfl⟩ := List.mem_map.mp listed
    exact (identifiers text inside).comma_not_mem
  cases left with
  | nil =>
    cases right with
    | nil => rfl
    | cons first others => exact absurd same (synthesizeSummary_nil_ne first others)
  | cons first others =>
    cases right with
    | nil => exact absurd same.symm (synthesizeSummary_nil_ne first others)
    | cons other rest =>
      have text := congrArg String.toList same
      rw [toList_synthesizeSummary_cons, toList_synthesizeSummary_cons] at text
      have parts := congrArg (List.splitOn ',') (List.append_cancel_left text)
      rw [splitOn_intercalate_comma (plain plainLeft), splitOn_intercalate_comma (plain plainRight)]
        at parts
      obtain ⟨head, tails⟩ := List.cons.inj parts
      rw [List.map_map, List.map_map] at tails
      have injective : Function.Injective ((' ' :: ·) ∘ String.toList) :=
        List.cons_injective.comp fun _ _ => String.toList_inj.mp
      exact congrArg₂ List.cons (String.toList_inj.mp head)
        (List.map_injective_iff.mpr injective tails)

/-! ## Names of the functions of a source -/

/-- The names that a table finds in the parameter text of a function. -/
def FoundFunction.names (table : Table) (found : FoundFunction) : List (List Char) :=
  found.parameterText.elim [] (parameterNames table.style table.quotes.toList)

/-- The text stands in the lines of the function: between parentheses behind its name, of which the
first is the first one behind the name. -/
def FoundFunction.Holds (found : FoundFunction) (raw : List Char) : Prop :=
  ∃ before gap behind, found.record.sourceSlice.toList =
    before ++ found.record.name.toList ++ gap ++ '(' :: raw ++ ')' :: behind ∧ '(' ∉ gap

/-- The parameters of a function are named in its lines. -/
structure FoundFunction.NamesStand (table : Table) (found : FoundFunction) : Prop where
  /-- The record and the declaration are of one function. -/
  name : found.node.name = found.record.name
  /-- All names are ASCII identifiers. -/
  identifiers : ∀ name ∈ found.names table, IsIdentifier name
  /-- The names stand one behind the other between the parentheses behind the name. -/
  stand : found.names table ≠ [] → ∃ raw, found.Holds raw ∧ StandInOrder (found.names table) raw
  /-- The declaration has the names without the receiver. -/
  parameterNames : found.node.parameterNames =
    ((found.names table).map String.ofList).filter (!isReceiver ·)
  /-- A summary without documentation lists all names. -/
  summary : found.record.summarySource = .synthesized →
    found.record.summary = synthesizeSummary ((found.names table).map String.ofList)
  /-- The declaration has the names that such a summary lists, without the receiver. -/
  listed : found.record.summarySource = .synthesized → ∀ names : List String,
    (∀ name ∈ names, IsIdentifier name.toList) → found.record.summary = synthesizeSummary names →
      found.node.parameterNames = names.filter (!isReceiver ·)

/-- The parameter text of an offer stands behind its name. -/
theorem Offer.holds_parameterText (table : Table) (window : Nat) {lines : List Line}
    {offer : Offer} (listed : offer ∈ offers table lines) {raw : List Char}
    (closed : offer.parameterText? table window lines = some raw) :
    (offer.function table window lines).Holds raw := by
  obtain ⟨line, here, cut⟩ := line_of_mem_offers listed
  obtain ⟨tail, ⟨gap, after, clear⟩, search⟩ := (parameterText?_eq_some_iff _ _ _ _).mp closed
  obtain ⟨behind, joined⟩ := ((closedList?_eq_some_iff Nat.one_pos _ _ _).mp search).1.follows
  have first : lines.getD offer.index [] =
      (offer.found.before ++ offer.found.name ++ gap ++ ['(']) ++ tail := by
    rw [List.getD_eq_getElem?_getD, here, Option.getD_some, ← cut, after]
    simp
  refine ⟨offer.found.before, gap, behind, ?_, fun inside => (clear '(' inside).1 rfl⟩
  change (String.ofList (joinLines (lines.getD offer.index [] ::
      (lines.drop (offer.index + 1)).take (window - 1)))).toList =
    _ ++ (String.ofList offer.found.name).toList ++ _ ++ _ ++ _
  rw [String.toList_ofList, String.toList_ofList, first, joinLines, intercalate_append_cons,
    ← joinLines, ← joined]
  simp

/-- The names of an offered function stand in its lines. -/
theorem Offer.function_namesStand (table : Table) (window : Nat) {lines : List Line}
    {offer : Offer} (listed : offer ∈ offers table lines) (function : offer.kind = .function) :
    (offer.function table window lines).NamesStand table := by
  have names : (offer.function table window lines).names table =
      (offer.parameterText? table window lines).elim []
        (parameterNames table.style table.quotes.toList) := rfl
  have parameters : (offer.description table window lines).2 =
      ((offer.function table window lines).names table).map String.ofList := by
    rw [Offer.parameters_eq, names]
    cases offer.parameterText? table window lines <;> rfl
  have identifiers : ∀ name ∈ (offer.function table window lines).names table,
      IsIdentifier name := by
    rw [names]
    cases offer.parameterText? table window lines with
    | none => exact List.forall_mem_nil _
    | some raw => exact (parameterNames_spec _ _ raw).1
  have node : (offer.function table window lines).node.parameterNames =
      (((offer.function table window lines).names table).map String.ofList).filter
        (!isReceiver ·) := by
    change (offer.node table window lines).parameterNames = _
    simp only [Offer.node, function, parameters]
  have summary (synthesized : (offer.record table window lines).summarySource = .synthesized) :
      (offer.record table window lines).summary = synthesizeSummary
        (((offer.function table window lines).names table).map String.ofList) := by
    rcases offer.record_summary table window lines with ⟨_, _, documented, _⟩ | ⟨_, _, same⟩
    · exact absurd (synthesized.symm.trans documented) (by decide)
    · rw [same, parameters]
  exact
    { name := (offer.node_fields table window lines).2.1
      identifiers := identifiers
      stand := by
        intro filled
        rw [names] at filled ⊢
        cases closed : offer.parameterText? table window lines with
        | none => exact absurd (congrArg (Option.elim · [] _) closed) filled
        | some raw =>
          exact ⟨raw, Offer.holds_parameterText table window listed closed,
            (parameterNames_spec _ _ raw).2⟩
      parameterNames := node
      summary := summary
      listed := by
        intro synthesized others plain same
        have own : ∀ name ∈ ((offer.function table window lines).names table).map String.ofList,
            IsIdentifier name.toList := by
          intro name member
          obtain ⟨text, inside, rfl⟩ := List.mem_map.mp member
          rw [String.toList_ofList]
          exact identifiers text inside
        rw [node, synthesizeSummary_inj plain own (same.symm.trans (summary synthesized))] }

/-- For every language, every window and every source, the parameters of each function are named in
its lines: the names are ASCII identifiers that stand one behind the other between the parentheses
behind the name of the function. The declaration has these names without the receiver, and they are
those that a summary without documentation lists. -/
theorem byLine_parameters_stand_in_slice (language : Language) (window : Nat)
    (source : List Char) :
    (foundFunctions language window source).map (·.record) =
      (byLine language window source).functions ∧
    (foundFunctions language window source).map (·.node) =
      (byLine language window source).tree.filter (·.kind = .function) ∧
    ∀ found ∈ foundFunctions language window source,
      ∃ table, Table.forLanguage? language = some table ∧ found.NamesStand table := by
  obtain ⟨records, nodes⟩ := foundFunctions_eq language window source
  refine ⟨records, nodes, fun found listed => ?_⟩
  rw [foundFunctions] at listed
  split at listed
  · contradiction
  · next table known =>
    obtain ⟨offer, kept, rfl⟩ := List.mem_map.mp listed
    obtain ⟨first, function⟩ := List.mem_filter.mp kept
    exact ⟨table, known, Offer.function_namesStand table _ (mem_of_mem_firstOffers first)
      (by simpa using function)⟩

/-- A method whose parameters stand in three lines. There is a comma inside of brackets and one
inside of a string, and the last name is a part of the names in front of it. -/
def methodSource : List Char :=
  joinLines ["def add(self, part: Dict[str, int],".toList, "    parts = \"),\",".toList,
    "    art = 0):".toList, "  pass".toList]

/-- In a window of three lines all names are found in the lines of the method, and the declaration
has all but the receiver. -/
theorem byLine_methodSource :
    ∃ found ∈ foundFunctions .python 3 methodSource,
      found.record.summary = "Function with parameters: self, part, parts, art" ∧
      found.node.parameterNames = ["part", "parts", "art"] ∧
      ∃ raw, found.Holds raw ∧
        StandInOrder ["self".toList, "part".toList, "parts".toList, "art".toList] raw := by
  obtain ⟨_, _, stand⟩ := byLine_parameters_stand_in_slice .python 3 methodSource
  have described : (foundFunctions .python 3 methodSource).map (fun found =>
      (found.record.summary, found.node.parameterNames, found.names Table.python)) =
        [("Function with parameters: self, part, parts, art", ["part", "parts", "art"],
          ["self".toList, "part".toList, "parts".toList, "art".toList])] := by
    decide +kernel
  obtain ⟨found, listed, same⟩ := List.mem_map.mp (described ▸ List.mem_singleton_self _)
  simp only [Prod.mk.injEq] at same
  obtain ⟨summary, parameters, names⟩ := same
  obtain ⟨table, known, holds⟩ := stand found listed
  obtain rfl : Table.python = table := Option.some.inj known
  have filled : found.names Table.python ≠ [] := names ▸ List.cons_ne_nil _ _
  exact ⟨found, listed, summary, parameters, names ▸ holds.stand filled⟩

end SourceOutline.Outline
