import SourceOutline.Proofs.Assistant.Rounds
import SourceOutline.Proofs.Outline.LineEndings
import SourceOutline.Proofs.Outline.ParameterNames

/-!
# Summaries on one line

A listing has one line for each function, so a summary must be one line: some text without a line
feed and without blanks around it. Summaries come from line comments, block comments, documentation
strings, parameter names and models. Each of them gives one line (`docComment?_isOneLine`,
`headline?_isOneLine`, `synthesizeSummary_isOneLine`, `Assistant.firstLine_isOneLine`), and a round
of answers keeps that, so it holds of every snapshot.
-/

namespace SourceOutline

open Text Outline Grammar

/-! ## One line of text -/

namespace Text

/-- Some text on one line, without blanks around it. -/
structure IsOneLine (text : List Char) : Prop where
  /-- There is some text. -/
  filled : text ≠ []
  /-- It has no line feed. -/
  single : '\n' ∉ text
  /-- It does not begin with a blank. -/
  starts : ∀ c ∈ text.head?, isBlank c = false
  /-- It does not end with a blank. -/
  stops : ∀ c ∈ text.getLast?, isBlank c = false

/-- Some text without blanks. -/
def IsWord (text : List Char) : Prop := text ≠ [] ∧ ∀ c ∈ text, isBlank c = false

/-- Words can be tested. -/
instance : DecidablePred IsWord := fun text =>
  decidable_of_iff (text ≠ [] ∧ text.all (!isBlank ·)) (by simp [IsWord])

/-- Trimming leaves characters of the text. -/
theorem trim_subset (text : List Char) : trim text ⊆ text := (isInfix_trim text).subset

/-- What is left of a line without its blanks is one line, if anything is left. -/
theorem isOneLine_trim {line : Line} (single : '\n' ∉ line) (filled : trim line ≠ []) :
    IsOneLine (trim line) where
  filled := filled
  single := fun feed => single (trim_subset line feed)
  starts := (trims_trim line).starts
  stops := (trims_trim line).stops

/-- Terminated lines have the characters of the lines. -/
theorem exists_of_mem_terminatedLines {lines : List Line} {line : Line}
    (listed : line ∈ terminatedLines lines) : ∃ whole ∈ lines, line ⊆ whole := by
  fun_induction terminatedLines lines with
  | case1 => contradiction
  | case2 => contradiction
  | case3 last _ => exact ⟨line, listed, fun _ member => member⟩
  | case4 first lines _ ih =>
    rcases List.mem_cons.mp listed with rfl | later
    · refine ⟨first, List.mem_cons_self, ?_⟩
      rw [dropReturn]
      split
      · exact List.dropLast_subset first
      · exact fun _ member => member
    · obtain ⟨whole, inside, part⟩ := ih later
      exact ⟨whole, List.mem_cons_of_mem _ inside, part⟩

/-- No line of a text holds a line feed. -/
theorem not_mem_of_mem_textLines {text : List Char} {line : Line}
    (listed : line ∈ textLines text) : '\n' ∉ line := by
  obtain ⟨whole, inside, part⟩ := exists_of_mem_terminatedLines listed
  exact fun feed => not_mem_of_mem_splitOn '\n' text whole inside (part feed)

/-- Pieces of which none is empty are not empty when they are joined, and they end as a piece. -/
theorem getLast?_intercalate {separator : List Char} {pieces : List (List Char)}
    (nonempty : pieces ≠ []) (each : ∀ piece ∈ pieces, piece ≠ []) :
    ∃ piece ∈ pieces, ∃ c ∈ piece, (separator.intercalate pieces).getLast? = some c := by
  induction pieces with
  | nil => contradiction
  | cons piece pieces ih =>
    obtain ⟨first, others⟩ := List.forall_mem_cons.mp each
    by_cases single : pieces = []
    · refine ⟨piece, List.mem_cons_self, piece.getLast first, List.getLast_mem first, ?_⟩
      rw [single, List.intercalate_singleton, List.getLast?_eq_some_getLast first]
    · obtain ⟨last, listed, c, member, ends⟩ := ih single others
      refine ⟨last, List.mem_cons_of_mem _ listed, c, member, ?_⟩
      rw [List.intercalate_cons_of_ne_nil single, List.getLast?_append, ends, Option.some_or]

end Text

/-! ## Comments -/

/-- What stands behind a tag is the end of the text. -/
theorem afterTag?_suffix (text : List Char) : ∀ behind ∈ afterTag? text, behind <:+ text := by
  fun_cases afterTag? text with
  | case1 rest inner head tail opened letter mark behind closed =>
    rintro _ ⟨⟩
    have inside : inner <:+ rest := by
      dsimp only [inner]
      split
      · exact List.suffix_cons _ _
      · exact List.suffix_refl _
    have close : mark :: behind <:+ inner := closed ▸ List.dropWhile_suffix _
    exact (List.suffix_cons _ _).trans (close.trans (inside.trans (List.suffix_cons _ _)))
  | _ => nofun

/-- Leaving out tags leaves characters of the text. -/
theorem dropTags_subset (text : List Char) : dropTags text ⊆ text := by
  rw [dropTags]
  generalize text.length = fuel
  fun_induction dropTags.go fuel text with
  | case1 => exact fun _ member => member
  | case2 => exact fun _ member => member
  | case3 fuel c rest behind tagged ih =>
    exact List.Subset.trans ih (afterTag?_suffix _ behind tagged).subset
  | case4 fuel c rest _ ih => exact List.cons_subset_cons c ih

/-- A cleaned line is one line, if anything is left of it. -/
theorem cleanComment_isOneLine {line : Line} (single : '\n' ∉ line)
    (filled : cleanComment line ≠ []) : IsOneLine (cleanComment line) :=
  isOneLine_trim (fun feed => single (dropTags_subset line feed)) filled

/-- The text of a line comment stands in the line. -/
theorem lineComment?_subset {style : CommentStyle} {line : Line} {text : List Char}
    (comment : lineComment? style line = some text) : text ⊆ line := by
  rw [lineComment?] at comment
  split at comment
  · contradiction
  · split at comment
    · contradiction
    · obtain rfl := Option.some.inj comment
      intro c member
      have kept := (List.dropWhile_suffix _).subset (trim_subset _ member)
      exact trim_subset line (List.mem_of_mem_drop kept)

/-- The line that a block comment gives is one line. -/
theorem blockSummary?_isOneLine {block text : List Char}
    (found : blockSummary? block = some text) : IsOneLine text := by
  have opened : (cutAt? "/*".toList block).isSome := by
    rw [blockSummary?] at found
    split at found
    · contradiction
    · next cut => rw [cut]; rfl
  obtain ⟨⟨front, body⟩, cut⟩ := Option.isSome_iff_exists.mp opened
  rw [blockSummary?_eq cut, meaningful?] at found
  obtain ⟨line, listed, rfl⟩ := List.mem_map.mp (List.mem_of_find?_eq_some found)
  have filled := List.find?_some found
  rw [Bool.and_eq_true, Bool.not_eq_true', List.isEmpty_eq_false_iff] at filled
  refine cleanComment_isOneLine (fun feed => ?_) filled.1
  exact not_mem_of_mem_splitOn '\n' _ line listed
    (trim_subset line ((List.dropWhile_suffix _).subset feed))

/-- The comment above a declaration gives one line. -/
theorem docComment?_isOneLine {style : CommentStyle} {above : List Line} {text : List Char}
    (plain : ∀ line ∈ above, '\n' ∉ line) (found : docComment? style above = some text) :
    IsOneLine text := by
  rw [docComment?] at found
  split at found
  · contradiction
  · next line higher nearest =>
    split at found
    · obtain ⟨block, _, summary⟩ := Option.bind_eq_some_iff.mp found
      exact blockSummary?_isOneLine summary
    · obtain ⟨comment, listed, rfl⟩ := List.mem_map.mp (List.mem_of_find?_eq_some found)
      have filled := List.find?_some found
      rw [Bool.not_eq_true', List.isEmpty_eq_false_iff] at filled
      rw [commentRun, List.mem_reverse] at listed
      obtain ⟨own, run, comments⟩ := List.mem_filterMap.mp listed
      have inside : own ∈ above :=
        (List.dropWhile_suffix _).subset (nearest ▸ (List.takeWhile_prefix _).subset run)
      exact cleanComment_isOneLine
        (fun feed => plain own inside (lineComment?_subset comments feed)) filled

/-- The first line of a documentation string is one line. -/
theorem headline?_isOneLine {text line : List Char} (found : headline? text = some line) :
    IsOneLine line := by
  rw [headline?] at found
  split at found
  · contradiction
  · next first others cut =>
    dsimp only at found
    split at found
    · contradiction
    · next filled =>
      obtain rfl := Option.some.inj found
      refine isOneLine_trim (not_mem_of_mem_textLines (cut ▸ List.mem_cons_self)) ?_
      rwa [List.isEmpty_iff] at filled

/-- The first line of what a model says is one line, if there is anything in it. -/
theorem Assistant.firstLine_isOneLine {answer : String} (filled : firstLine answer ≠ "") :
    IsOneLine (firstLine answer).toList := by
  rw [firstLine, String.toList_ofList]
  refine isOneLine_trim ?_ ?_
  · cases cut : textLines answer.toList with
    | nil => simp
    | cons first others => exact not_mem_of_mem_textLines (cut ▸ List.mem_cons_self)
  · rwa [ne_eq, ← String.toList_eq_nil_iff, firstLine, String.toList_ofList] at filled

/-! ## Parameter names -/

/-- No character of an identifier is blank. -/
theorem isBlank_eq_false_of_isAsciiPart {c : Char} (part : isAsciiPart c = true) :
    isBlank c = false :=
  isBlank_eq_false (by decide +kernel) part

/-- Identifiers are words. -/
theorem Outline.IsIdentifier.isWord {name : List Char} (identifier : IsIdentifier name) :
    IsWord name := by
  have ink {c : Char} (part : IsLetter c ∨ IsDigit c) : isBlank c = false :=
    isBlank_eq_false_of_isAsciiPart ((isAsciiPart_iff c).mpr part)
  cases name with
  | nil => exact absurd identifier id
  | cons c rest =>
    obtain ⟨starts, parts⟩ := identifier
    refine ⟨List.cons_ne_nil c rest, List.forall_mem_cons.mpr ⟨ink (Or.inl starts), ?_⟩⟩
    exact fun d later => ink (parts d later)

/-- Parameter names in running text are words. -/
theorem isWord_of_mem_parameterNames {style : ParameterStyle} {quotes raw name : List Char}
    (listed : name ∈ parameterNames style quotes raw) : IsWord name :=
  ((parameterNames_spec style quotes raw).1 name listed).isWord

/-- The names listed are names of parameters. -/
theorem exists_of_mem_namesAfter {parameters : List Parameter} {names : List (List Char)}
    {name : List Char} (listed : name ∈ namesAfter names parameters) :
    name ∈ names ∨ ∃ parameter ∈ parameters, parameter.name? = some name := by
  induction parameters generalizing names with
  | nil => exact Or.inl listed
  | cons parameter parameters ih =>
    rw [namesAfter] at listed
    split at listed
    · exact Or.inl listed
    · split at listed
      · rcases ih listed with early | ⟨later, inside, named⟩
        · contradiction
        · exact Or.inr ⟨later, List.mem_cons_of_mem _ inside, named⟩
      · rcases ih listed with early | ⟨later, inside, named⟩
        · rcases List.mem_append.mp early with before | own
          · exact Or.inl before
          · exact Or.inr ⟨parameter, List.mem_cons_self, Option.mem_toList.mp own⟩
        · exact Or.inr ⟨later, List.mem_cons_of_mem _ inside, named⟩

/-- A summary made from parameter names is one line. -/
theorem synthesizeSummary_isOneLine {parameters : List String}
    (words : ∀ name ∈ parameters, IsWord name.toList) :
    IsOneLine (synthesizeSummary parameters).toList := by
  rw [synthesizeSummary]
  split
  · have trimmed : trim "Function with no parameters".toList =
        "Function with no parameters".toList := by decide +kernel
    rw [← trimmed]
    exact isOneLine_trim (by decide) (by rw [trimmed]; decide)
  · next named =>
    rw [List.isEmpty_iff] at named
    have each : ∀ piece ∈ parameters.map String.toList, IsWord piece := by
      simpa using words
    have filled : parameters.map String.toList ≠ [] := by simpa using named
    obtain ⟨last, listed, c, member, ends⟩ := @getLast?_intercalate ", ".toList _ filled
      fun piece inside => (each piece inside).1
    have joined : '\n' ∉ ", ".toList.intercalate (parameters.map String.toList) :=
      not_mem_intercalate (by decide) fun piece inside feed =>
        absurd ((each piece inside).2 '\n' feed) (by decide)
    rw [String.toList_append, String.toList_intercalate]
    exact
      { filled := by simp
        single := by
          rw [List.mem_append, not_or]
          exact ⟨by decide, joined⟩
        starts := by
          have first : "Function with parameters: ".toList.head? = some 'F' := rfl
          rw [List.head?_append, first, Option.some_or]
          rintro _ ⟨⟩
          rfl
        stops := by
          rw [List.getLast?_append, ends]
          rintro _ ⟨⟩
          exact (each last listed).2 c member }

/-! ## Functions of a source -/

/-- Functions that line patterns find have one line for a summary. -/
theorem summary_isOneLine_of_mem_byLine {language : Language} {window : Nat}
    {source : List Char} {record : FunctionRecord}
    (listed : record ∈ (byLine language window source).functions) :
    IsOneLine record.summary.toList := by
  rw [byLine] at listed
  split at listed
  · contradiction
  · next table _ =>
    rw [byTable, (readLines_shows_firstOffers table (max window 1) (splitLines source)).functions]
      at listed
    obtain ⟨offer, _, rfl⟩ := List.mem_map.mp listed
    have plain : ∀ line ∈ ((splitLines source).take offer.index).reverse, '\n' ∉ line :=
      fun line above => not_mem_of_mem_splitOn '\n' source line
        (List.mem_of_mem_take (List.mem_reverse.mp above))
    have names : ∀ name ∈ (offer.description table (max window 1) (splitLines source)).2,
        IsWord name.toList := by
      rw [Offer.parameters_eq]
      split
      · simp
      · intro name member
        obtain ⟨word, inside, rfl⟩ := List.mem_map.mp member
        rw [String.toList_ofList]
        exact isWord_of_mem_parameterNames inside
    rcases offer.record_summary table (max window 1) (splitLines source) with
      ⟨text, found, _, same⟩ | ⟨_, _, same⟩
    · rw [same, String.toList_ofList]
      exact docComment?_isOneLine plain found
    · rw [same]
      exact synthesizeSummary_isOneLine names

/-- The parameters of all functions of a syntax tree are named by words. -/
def NamedByWords (trees : List Tree) : Prop :=
  ∀ placed ∈ placedFunctions trees, ∀ parameter ∈ placed.2.parameters,
    ∀ name ∈ parameter.name?, IsWord name

/-- Whether all names are words can be tested. -/
instance : DecidablePred NamedByWords := fun trees =>
  inferInstanceAs (Decidable (∀ placed ∈ placedFunctions trees, _))

/-- Functions that the grammar finds have one line for a summary. -/
theorem summary_isOneLine_of_mem_ofTrees {trees : List Tree} {source : List Char}
    (words : NamedByWords trees) {record : FunctionRecord}
    (listed : record ∈ (ofTrees trees source).functions) : IsOneLine record.summary.toList := by
  rw [functions_ofTrees] at listed
  obtain ⟨placed, found, rfl⟩ := List.mem_map.mp listed
  have names : ∀ name ∈ listedNames placed.2.parameters, IsWord name.toList := by
    intro name member
    obtain ⟨word, inside, rfl⟩ := List.mem_map.mp member
    rw [String.toList_ofList]
    rcases exists_of_mem_namesAfter inside with none | ⟨parameter, own, named⟩
    · contradiction
    · exact words placed found parameter own word named
  rw [Definition.record, functionRecord]
  cases documented : (documentation? placed.2.body).bind headline? with
  | none => exact synthesizeSummary_isOneLine names
  | some line =>
    obtain ⟨text, _, head⟩ := Option.bind_eq_some_iff.mp documented
    exact String.toList_ofList.symm ▸ headline?_isOneLine head

/-! ## Snapshots -/

namespace Snapshot

/-- Every function has one line for a summary. -/
def IsBrief (snapshot : Snapshot) : Prop :=
  ∀ record ∈ snapshot.functions, IsOneLine record.summary.toList

/-- A snapshot that is taken of a file has one line for each function. -/
theorem isBrief_take (options : Options) (filename : String) {source : List Char}
    (words : (take options filename source).1.language.hasSyntaxTree = true →
      ∀ trees, parse source = .ok trees → NamedByWords trees) :
    (take options filename source).1.IsBrief := by
  intro record listed
  generalize shape : (take options filename source).1.language = language at words
  change record ∈ (ofLanguage (take options filename source).1.language options.window
    source).1.functions at listed
  rw [ofLanguage_outline, shape] at listed
  split at listed
  · next tree =>
    rw [byGrammar] at listed
    split at listed
    · next trees parsed =>
      exact summary_isOneLine_of_mem_ofTrees (words tree trees parsed) listed
    · contradiction
  · exact summary_isOneLine_of_mem_byLine listed

/-- Answers on one line keep summaries on one line. -/
theorem IsBrief.answered {snapshot : Snapshot} (brief : snapshot.IsBrief)
    {answers : Nat → Except Failure String}
    (given : ∀ position summary, answers position = .ok summary → summary ≠ "" →
      IsOneLine summary.toList) : (snapshot.answered answers).snapshot.IsBrief := by
  intro record listed
  obtain ⟨⟨answered, failure⟩, entry, rfl⟩ := List.mem_map.mp listed
  obtain ⟨position, inside, same⟩ := List.mem_mapIdx.mp entry
  have before := brief _ (List.getElem_mem inside)
  rw [answerAt] at same
  split at same
  · by_cases useful : IsSummary (answers position)
    · obtain ⟨summary, said, nonempty⟩ := useful.exists_ok
      rw [said, applyAnswer_ok _ nonempty] at same
      cases same
      exact given position summary said nonempty
    · rw [applyAnswer_of_not_isSummary _ useful] at same
      cases same
      exact before
  · cases same
    exact before

end Snapshot

/-- What a model said is cut to its first line. -/
theorem Assistant.isOneLine_of_map_firstLine {reply : Except Failure String} {summary : String}
    (said : reply.map firstLine = .ok summary) (nonempty : summary ≠ "") :
    IsOneLine summary.toList := by
  cases reply with
  | error failure => contradiction
  | ok answer =>
    obtain rfl : firstLine answer = summary := Except.ok.inj said
    exact firstLine_isOneLine nonempty

/-- An assistant keeps summaries on one line, whatever its model answers. -/
theorem Snapshot.IsBrief.enhance {snapshot : Snapshot} (brief : snapshot.IsBrief)
    (assistant : Assistant) : (assistant.enhance snapshot).value.snapshot.IsBrief := by
  -- Each position is answered with what the assistant says about the function there.
  let answers (position : Nat) : Except Failure String :=
    (snapshot.functions[position]?.elim (.ok "") fun record =>
      (assistant.ask (assistant.summaryQuestion record.name record.sourceSlice
        snapshot.language)).1).map Assistant.firstLine
  have gives : assistant.Gives snapshot answers := by
    intro position record found _
    simp only [answers, found, Option.elim_some]
    rfl
  have same : (assistant.enhance snapshot).value = snapshot.answered answers := by
    rw [Assistant.enhance, assistant.enhanceRecords_value snapshot.language gives]
    rfl
  rw [same]
  exact brief.answered fun _ _ said nonempty =>
    Assistant.isOneLine_of_map_firstLine said nonempty

/-- The answers of a round are the first lines of what a model said. -/
def Round.CutsReplies (round : Round) : Prop :=
  ∃ replies : Nat → Except Failure String, ∀ position,
    round.answers position = (replies position).map Assistant.firstLine

/-- Rounds of questions keep summaries on one line. -/
theorem Snapshot.IsBrief.after {snapshot : Snapshot} (brief : snapshot.IsBrief)
    {rounds : List Round} (cut : ∀ round ∈ rounds, round.CutsReplies) {turns : List Turn}
    (ran : snapshot.turns? rounds = some turns) : (snapshot.after turns).IsBrief := by
  induction rounds generalizing snapshot turns with
  | nil =>
    cases ran
    exact brief
  | cons round rounds ih =>
    obtain ⟨turn, ranFirst, later⟩ := Option.bind_eq_some_iff.mp ran
    obtain ⟨others, ranOthers, rfl⟩ := Option.map_eq_some_iff.mp later
    obtain ⟨⟨replies, said⟩, cutOthers⟩ := List.forall_mem_cons.mp cut
    have answered := (Round.turn_of_run? ranFirst).2
    have left : turn.enhancement.snapshot.IsBrief := by
      rw [answered]
      exact brief.answered fun position summary given nonempty =>
        Assistant.isOneLine_of_map_firstLine (said position ▸ given) nonempty
    rw [after_cons]
    exact ih left cutOthers ranOthers

/-- For every file and all options, each function has one line for a summary: some text without a
line feed and without blanks around it. So it is after any number of assistants, whatever their
models answer, and after any rounds of questions, in every order and with every limit. Where the
file is read by its grammar, the names of parameters are taken to be words. -/
theorem take_summaries_on_one_line (options : Snapshot.Options) (filename : String)
    {source : List Char}
    (words : (Snapshot.take options filename source).1.language.hasSyntaxTree = true →
      ∀ trees, parse source = .ok trees → NamedByWords trees) :
    let snapshot := (Snapshot.take options filename source).1
    snapshot.IsBrief ∧
    (∀ assistants : List Assistant,
      (assistants.foldl (fun left assistant => (assistant.enhance left).value.snapshot)
        snapshot).IsBrief) ∧
    ∀ (rounds : List Round) (turns : List Turn), (∀ round ∈ rounds, round.CutsReplies) →
      snapshot.turns? rounds = some turns → (snapshot.after turns).IsBrief := by
  intro snapshot
  have brief : snapshot.IsBrief := Snapshot.isBrief_take options filename words
  refine ⟨brief, fun assistants => ?_, fun rounds turns cut ran => brief.after cut ran⟩
  exact List.foldlRecOn assistants _ brief fun left kept assistant _ => kept.enhance assistant

/-- A function whose documentation starts with an empty line, and one without documentation. -/
def documentedSource : List Char :=
  "def add(a, b=1):\n    '\\n\\t Adds. \\n More'\ndef count(self, c: int): pass\n".toList

/-- An assistant whose model says the same about everything. -/
def chatty : Assistant :=
  { name := "chatty"
    ask := fun _ => (.ok " Counts.\u3000\r\nMore", [])
    summaryTokens := 9
    conversionTokens := 9 }

/-- A round in which one function is asked about. -/
def chattyRound : Round :=
  ⟨fun _ => (.ok " Counts.\u3000\r\nMore" : Except Failure String).map Assistant.firstLine, 2,
    [.enter, .ask 0, .answer 0, .leave]⟩

/-- Neither the empty line in front nor the lines behind are part of a summary. -/
theorem take_documentedSource :
    let snapshot := (Snapshot.take {} "a.py" documentedSource).1
    snapshot.functions.map (·.summary) = ["Adds.", "Function with parameters: self, c"] ∧
    snapshot.IsBrief ∧
    (chatty.enhance snapshot).value.snapshot.functions.map (·.summary) = ["Adds.", "Counts."] ∧
    (chatty.enhance snapshot).value.snapshot.IsBrief ∧
    ∃ turns, snapshot.turns? [chattyRound] = some turns ∧ (snapshot.after turns).IsBrief := by
  have checked :
      (parse documentedSource).toOption.all (fun trees => decide (NamedByWords trees)) = true := by
    decide +kernel
  have words (trees : List Tree) (parsed : parse documentedSource = .ok trees) :
      NamedByWords trees := by
    rw [parsed] at checked
    exact of_decide_eq_true checked
  have runs :
      ((Snapshot.take {} "a.py" documentedSource).1.turns? [chattyRound]).isSome = true := by
    decide +kernel
  obtain ⟨turns, ran⟩ := Option.isSome_iff_exists.mp runs
  obtain ⟨brief, enhanced, rounds⟩ := take_summaries_on_one_line {} "a.py" fun _ => words
  refine ⟨by decide +kernel, brief, by decide +kernel, enhanced [chatty], turns, ran, ?_⟩
  have cut : ∀ round ∈ [chattyRound], round.CutsReplies :=
    List.forall_mem_singleton.mpr ⟨fun _ => .ok " Counts.\u3000\r\nMore", fun _ => rfl⟩
  exact rounds [chattyRound] turns cut ran

end SourceOutline
