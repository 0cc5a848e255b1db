import Mathlib.Data.List.SplitBy
import SourceOutline.Prompt
import SourceOutline.Proofs.Text.Lines
import SourceOutline.Proofs.Text.Trim

/-!
# Prompts as blocks

A prompt is written section by section, and what stands between two sections depends on what has
been written so far. Here it is read off the sections alone: those in front that come to nothing are
left out, each run of facts makes a block of lines, every other section is a block, and an empty
line parts the blocks (`toList_build`). So code stands in a prompt as it is written but for line
feeds at its end, and a prompt tells the code that it was made for.
-/

namespace SourceOutline.Prompt

open Text

/-! ## Sections -/

/-- How a section stands in a prompt. -/
inductive Rendered : Section → List Char → Prop where
  | text {content : String} {body : List Char} (cut : CutsEnd isBlank content.toList body) :
    Rendered (.text content) body
  | fact (label value : String) : Rendered (.fact label value) (label ++ ": " ++ value).toList
  | code {content : String} {body : List Char} (cut : CutsEnd (· == '\n') content.toList body) :
    Rendered (.code content) body

/-- A section has one way to stand in a prompt. -/
theorem render_eq_iff (part : Section) (body : List Char) :
    part.render = body ↔ Rendered part body := by
  constructor
  · rintro rfl
    cases part with
    | text content => exact .text (cutsEnd_dropWhileEnd _ _)
    | fact label value =>
      have written : (Section.fact label value).render = (label ++ ": " ++ value).toList := by
        simp [Section.render]
      exact written ▸ .fact label value
    | code content => exact .code (cutsEnd_dropWhileEnd _ _)
  · rintro (cut | _ | cut)
    · exact (cutsEnd_iff.mp cut).symm
    · simp [Section.render]
    · exact (cutsEnd_iff.mp cut).symm

/-! ## Blocks -/

/-- The sections are facts and share a block. -/
def shareBlock (left right : Section) : Bool := left.isFact && right.isFact

/-- The blocks of sections: the facts of a run, one on each line, and every other section. -/
def blocks (sections : List Section) : List (List Char) :=
  (sections.splitBy shareBlock).map fun run => joinLines (run.map Section.render)

/-- What sections add to a prompt that is not empty. -/
def continuation (afterFact : Bool) : List Section → List Char
  | [] => []
  | next :: rest =>
    separator afterFact next.isFact ++ (next.render ++ continuation next.isFact rest)

/-- Behind any text, sections are written with what separates them. -/
theorem append_of_ne_nil {prompt : List Char} (filled : prompt ≠ []) (afterFact : Bool)
    (sections : List Section) :
    append prompt afterFact sections = prompt ++ continuation afterFact sections := by
  induction sections generalizing prompt afterFact with
  | nil => simp [append, continuation]
  | cons next rest ih =>
    rw [append, if_neg (by simpa using filled), ih (by simp [filled]), continuation]
    simp only [List.append_assoc]

/-- In front of the first text, sections leave no trace. -/
theorem append_nil (afterFact : Bool) (sections : List Section) :
    append [] afterFact sections =
      match sections.dropWhile (·.render.isEmpty) with
      | [] => []
      | first :: rest => first.render ++ continuation first.isFact rest := by
  induction sections generalizing afterFact with
  | nil => rfl
  | cons next rest ih =>
    rw [append, if_pos (by simp), List.append_nil, List.nil_append]
    by_cases empty : next.render = []
    · rw [empty, ih, List.dropWhile_cons_of_pos (by simpa using empty)]
    · rw [append_of_ne_nil empty, List.dropWhile_cons_of_neg (by simpa using empty)]

/-- One more element in front of a run that it belongs to. -/
theorem splitBy_cons_of_related {α : Type} {related : α → α → Bool} {first second : α}
    {rest run : List α} {runs : List (List α)} (same : related first second = true)
    (cut : (second :: rest).splitBy related = run :: runs) :
    (first :: second :: rest).splitBy related = (first :: run) :: runs := by
  obtain ⟨joined, filled, chains, breaks⟩ := List.splitBy_eq_iff.mp cut
  obtain ⟨notNil, others⟩ : run ≠ [] ∧ [] ∉ runs := by
    simpa [eq_comm] using filled
  obtain ⟨head, tail, rfl⟩ := List.exists_cons_of_ne_nil notNil
  obtain ⟨rfl, inner⟩ : second = head ∧ rest = tail ++ runs.flatten := by simpa using joined
  refine List.splitBy_eq_iff.mpr ⟨by simp [inner], by simpa using others, ?_, ?_⟩
  · intro piece listed
    rcases List.mem_cons.mp listed with rfl | later
    · exact List.isChain_cons_cons.mpr ⟨same, chains _ List.mem_cons_self⟩
    · exact chains piece (List.mem_cons_of_mem _ later)
  · -- The run ends as it did before.
    rw [List.isChain_cons] at breaks ⊢
    refine ⟨fun next listed => ?_, breaks.2⟩
    obtain ⟨_, nextFilled, apart⟩ := breaks.1 next listed
    exact ⟨by simp, nextFilled, by simpa using apart⟩

/-- One section is one block. -/
theorem blocks_singleton (only : Section) : blocks [only] = [only.render] := by
  change [joinLines [only.render]] = _
  rw [joinLines_singleton]

/-- A section that shares no block with the next one is a block. -/
theorem blocks_cons_of_apart {first next : Section} (apart : shareBlock first next = false)
    (rest : List Section) :
    blocks (first :: next :: rest) = first.render :: blocks (next :: rest) := by
  have cut : (first :: next :: rest).splitBy shareBlock =
      [first] :: (next :: rest).splitBy shareBlock :=
    List.splitBy_append_cons (l := [first]) rest (by simpa using apart)
  rw [blocks, cut, List.map_cons, ← blocks, List.map_singleton, joinLines_singleton]

/-- The blocks of sections are written one section after the other. -/
theorem intercalate_blocks (first : Section) (rest : List Section) :
    ['\n', '\n'].intercalate (blocks (first :: rest)) =
      first.render ++ continuation first.isFact rest := by
  induction rest generalizing first with
  | nil =>
    rw [blocks_singleton, List.intercalate_singleton, continuation, List.append_nil]
  | cons next rest ih =>
    rw [continuation, ← ih next]
    obtain ⟨run, runs, cut⟩ := List.exists_cons_of_ne_nil
      (List.splitBy_ne_nil (r := shareBlock).mpr (List.cons_ne_nil next rest))
    cases shared : shareBlock first next with
    | true =>
      -- The block goes on with the next section.
      have facts : first.isFact = true ∧ next.isFact = true := by
        simpa [shareBlock] using shared
      obtain ⟨second, others, rfl⟩ := List.exists_cons_of_ne_nil
        (List.ne_nil_of_mem_splitBy (cut ▸ List.mem_cons_self))
      have grown : joinLines ((first :: second :: others).map Section.render) =
          (first.render ++ ['\n']) ++ joinLines ((second :: others).map Section.render) := by
        simp [joinLines, List.intercalate_cons_cons]
      rw [blocks, splitBy_cons_of_related shared cut, List.map_cons, grown, intercalate_append_cons,
        blocks, cut, List.map_cons, facts.1, facts.2, List.append_assoc]
      rfl
    | false =>
      have gap : separator first.isFact next.isFact = ['\n', '\n'] := by
        rw [separator, ← shareBlock, shared]
        rfl
      have filled : blocks (next :: rest) ≠ [] := by simp [blocks, cut]
      rw [blocks_cons_of_apart shared, List.intercalate_cons_of_ne_nil filled, gap,
        List.append_assoc]

/-- A prompt is made of the blocks of its sections, without those in front that come to
nothing. -/
theorem toList_build (sections : List Section) :
    (build sections).toList =
      ['\n', '\n'].intercalate (blocks (sections.dropWhile (·.render.isEmpty))) := by
  rw [build, String.toList_ofList, append_nil]
  split
  next none => rw [none]; rfl
  next first rest found => rw [found, intercalate_blocks]

/-! ## Code in prompts -/

/-- The texts differ in nothing but line feeds at their ends. -/
def SameButFeeds (left right : List Char) : Prop :=
  ∃ (body : List Char) (leftFeeds rightFeeds : Nat),
    left = body ++ List.replicate leftFeeds '\n' ∧ right = body ++ List.replicate rightFeeds '\n'

/-- Texts that differ in line feeds at their ends are the same without them. -/
theorem sameButFeeds_iff (left right : List Char) :
    SameButFeeds left right ↔
      dropWhileEnd (· == '\n') left = dropWhileEnd (· == '\n') right := by
  constructor
  · have dropped (body : List Char) (feeds : Nat) :
        dropWhileEnd (· == '\n') (body ++ List.replicate feeds '\n') =
          dropWhileEnd (· == '\n') body := by
      obtain ⟨⟨back, cut, ofKind⟩, stops⟩ := cutsEnd_dropWhileEnd (· == '\n') body
      refine (cutsEnd_iff.mp ⟨⟨back ++ List.replicate feeds '\n', ?_, ?_⟩, stops⟩).symm
      · rw [← List.append_assoc, ← cut]
      · intro c member
        rcases List.mem_append.mp member with earlier | last
        · exact ofKind c earlier
        · simpa using (List.mem_replicate.mp last).2
    rintro ⟨body, leftFeeds, rightFeeds, rfl, rfl⟩
    rw [dropped, dropped]
  · intro same
    have feeds (text : List Char) : ∃ count,
        text = dropWhileEnd (· == '\n') text ++ List.replicate count '\n' := by
      obtain ⟨⟨back, cut, ofKind⟩, _⟩ := cutsEnd_dropWhileEnd (· == '\n') text
      refine ⟨back.length, ?_⟩
      rwa [← List.eq_replicate_of_mem fun c member => by simpa using ofKind c member]
    obtain ⟨leftFeeds, leftCut⟩ := feeds left
    obtain ⟨rightFeeds, rightCut⟩ := feeds right
    exact ⟨_, leftFeeds, rightFeeds, leftCut, same ▸ rightCut⟩

/-- What stands in front of the code in a question for a summary. -/
def summaryOpening (name language : String) : String :=
  "Describe what a function named '" ++ name ++ "' likely does in 1 sentence." ++ "\n\n" ++
    ("Language" ++ ": " ++ language) ++ "\n\n"

/-- What stands in front of the code in a question for a function in another language. -/
def conversionOpening (source target : String) : String :=
  "Convert this " ++ source ++ " function to " ++ target ++
    ". Keep the same logic and functionality:" ++ "\n\n"

/-- What stands behind the code in a question for a function in another language. -/
def conversionClosing : String :=
  "\n\n" ++ "Provide only the converted code without explanations."

/-- Instructions that do not end with a blank stand in a prompt as they are. -/
theorem render_text (front back : String) {last : Char}
    (ends : back.toList.getLast? = some last) (ink : isBlank last = false) :
    (Section.text (front ++ back)).render = (front ++ back).toList := by
  refine (cutsEnd_iff.mp ⟨⟨[], by simp, by simp⟩, ?_⟩).symm
  intro c found
  rw [String.toList_append, List.getLast?_append, ends, Option.some_or] at found
  exact (Option.some.inj found) ▸ ink

/-- All sections behind instructions that do not end with a blank are in the prompt. -/
theorem toList_build_text (front back : String) {last : Char}
    (ends : back.toList.getLast? = some last) (ink : isBlank last = false)
    (rest : List Section) :
    (build (.text (front ++ back) :: rest)).toList =
      ['\n', '\n'].intercalate (blocks (.text (front ++ back) :: rest)) := by
  have filled : ¬ (Section.text (front ++ back)).render.isEmpty = true := by
    rw [render_text front back ends ink, List.isEmpty_iff, String.toList_append]
    intro empty
    rw [(List.append_eq_nil_iff.mp empty).2] at ends
    contradiction
  have kept : (Section.text (front ++ back) :: rest).dropWhile (·.render.isEmpty) =
      .text (front ++ back) :: rest := List.dropWhile_cons_of_neg filled
  rw [toList_build, kept]

/-- A question for a summary ends with the code. -/
theorem toList_summary (name language code : String) :
    (summary name language code).toList =
      (summaryOpening name language).toList ++ (Section.code code).render := by
  have apart (first : String) : blocks [.text first, .fact "Language" language, .code code] =
      [(Section.text first).render, (Section.fact "Language" language).render,
        (Section.code code).render] := by
    rw [blocks_cons_of_apart rfl, blocks_cons_of_apart rfl, blocks_singleton]
  have told := (render_eq_iff _ _).mpr (Rendered.fact "Language" language)
  have gap : "\n\n".toList = ['\n', '\n'] := rfl
  unfold summary summaryOpening
  rw [toList_build_text _ "' likely does in 1 sentence." rfl (by decide), apart,
    render_text _ "' likely does in 1 sentence." rfl (by decide), told]
  simp only [List.intercalate_cons_cons, List.intercalate_singleton, String.toList_append, gap,
    List.append_assoc]

/-- A question for a function in another language has the code between two instructions. -/
theorem toList_conversion (source target code : String) :
    (conversion source target code).toList =
      (conversionOpening source target).toList ++
        ((Section.code code).render ++ conversionClosing.toList) := by
  have apart (first second : String) : blocks [.text first, .code code, .text second] =
      [(Section.text first).render, (Section.code code).render, (Section.text second).render] := by
    rw [blocks_cons_of_apart rfl, blocks_cons_of_apart rfl, blocks_singleton]
  have order := render_text "" "Provide only the converted code without explanations." rfl
    (by decide)
  have gap : "\n\n".toList = ['\n', '\n'] := rfl
  rw [String.empty_append] at order
  unfold conversion conversionOpening conversionClosing
  rw [toList_build_text _ ". Keep the same logic and functionality:" rfl (by decide), apart, order,
    render_text _ ". Keep the same logic and functionality:" rfl (by decide)]
  simp only [List.intercalate_cons_cons, List.intercalate_singleton, String.toList_append, gap,
    List.append_assoc]

/-- Every prompt is made of blocks: sections in front that come to nothing are left out, the facts
of a run share a block, and an empty line parts the blocks. Questions for a summary and for a
function in another language have the code as it is written, without line feeds at its end, between
texts that do not depend on it. So two codes make one question just where they differ in nothing but
line feeds at their ends. -/
theorem build_joins_blocks :
    (∀ part body, Section.render part = body ↔ Rendered part body) ∧
    (∀ sections, (build sections).toList =
      ['\n', '\n'].intercalate (blocks (sections.dropWhile (·.render.isEmpty)))) ∧
    (∀ (name language code : String) (body : List Char), CutsEnd (· == '\n') code.toList body →
      (summary name language code).toList = (summaryOpening name language).toList ++ body) ∧
    (∀ (source target code : String) (body : List Char), CutsEnd (· == '\n') code.toList body →
      (conversion source target code).toList =
        (conversionOpening source target).toList ++ (body ++ conversionClosing.toList)) ∧
    (∀ name language left right : String,
      summary name language left = summary name language right ↔
        SameButFeeds left.toList right.toList) ∧
    ∀ source target left right : String,
      conversion source target left = conversion source target right ↔
        SameButFeeds left.toList right.toList := by
  refine ⟨render_eq_iff, toList_build, ?_, ?_, ?_, ?_⟩
  · intro name language code body cut
    rw [toList_summary, (render_eq_iff _ body).mpr (.code cut)]
  · intro source target code body cut
    rw [toList_conversion, (render_eq_iff _ body).mpr (.code cut)]
  · intro name language left right
    rw [← String.toList_inj, toList_summary, toList_summary, List.append_cancel_left_eq,
      sameButFeeds_iff]
    rfl
  · intro source target left right
    rw [← String.toList_inj, toList_conversion, toList_conversion, List.append_cancel_left_eq,
      List.append_cancel_right_eq, sameButFeeds_iff]
    rfl

/-- Sections that come to nothing in front of all others and between facts. -/
def gappedSections : List Section :=
  [.text " \t", .code "\n", .fact "Language" "Go", .fact "Name" "run", .code "\n\n",
    .fact "Lines" "2", .text "Answer.\u3000\n"]

/-- Nothing is left of the sections in front, and an empty block of those between. Code keeps its
inner line feeds, and those at its end make no other prompt. -/
theorem build_gappedSections :
    build gappedSections = "Language: Go\nName: run\n\n\n\nLines: 2\n\nAnswer." ∧
    (CutsEnd (· == '\n') "a\n\n b \n\n".toList "a\n\n b ".toList ∧
      (summary "f" "Go" "a\n\n b \n\n").toList =
        (summaryOpening "f" "Go").toList ++ "a\n\n b ".toList) ∧
    (conversion "C" "Go" "a\n").toList =
      (conversionOpening "C" "Go").toList ++ ("a".toList ++ conversionClosing.toList) ∧
    conversion "C" "Go" "a\n" = conversion "C" "Go" "a\n\n" ∧
    summary "f" "Go" "a\n" ≠ summary "f" "Go" "a \n" := by
  obtain ⟨_, built, summaries, conversions, sameSummary, sameConversion⟩ := build_joins_blocks
  have inner : CutsEnd (· == '\n') "a\n\n b \n\n".toList "a\n\n b ".toList :=
    cutsEnd_iff.mpr (by decide)
  refine ⟨?_, ⟨inner, summaries _ _ _ _ inner⟩, conversions _ _ _ _ (cutsEnd_iff.mpr (by decide)),
    (sameConversion _ _ _ _).mpr ⟨['a'], 1, 2, rfl, rfl⟩, fun same => ?_⟩
  · exact String.toList_inj.mp ((built gappedSections).trans (by decide +kernel))
  · exact absurd ((sameButFeeds_iff _ _).mp ((sameSummary _ _ _ _).mp same)) (by decide)

end SourceOutline.Prompt
