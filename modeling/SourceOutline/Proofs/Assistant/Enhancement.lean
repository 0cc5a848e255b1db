import Mathlib.Tactic.IntervalCases
import SourceOutline.Assistant
import SourceOutline.Proofs.Assistant.Buffer

/-!
# Written summaries

The functions of a snapshot that need a summary go through a buffer of questions, and each
answer is written back to the position it was asked for. Whatever the schedule and the limit
of the buffer are, the result is that of answering position by position (`Snapshot.answered`).
For an assistant it is `Assistant.enhance`.
-/

namespace SourceOutline

/-! ## Answers written back -/

namespace Snapshot

/-- The summary of the function at a position was built from its parameters. -/
def IsPending (snapshot : Snapshot) (position : Nat) : Prop :=
  ∃ record, snapshot.functions[position]? = some record ∧ record.summarySource = .synthesized

/-- The positions of the functions that need a summary, ascending. -/
def pendingPositions (snapshot : Snapshot) : List Nat :=
  (snapshot.functions.zipIdx.filter fun entry => entry.1.isSynthesized).map Prod.snd

end Snapshot

namespace Enhancement

/-- An enhancement that also tells what went wrong for the function at a position. -/
def report (functions : List FunctionRecord) (enhancement : Enhancement) (position : Nat)
    (message : String) : Enhancement :=
  { enhancement with
    failures := enhancement.failures ++
      (functions[position]?.map fun record => ⟨record.name, message⟩).toList }

/-- An enhancement with one more answer: a new summary at its position, or what went wrong. -/
def settle (functions : List FunctionRecord) (enhancement : Enhancement) :
    Nat × Except Failure String → Enhancement
  | (position, .ok summary) =>
    if summary.isEmpty then enhancement.report functions position "MODEL_ERROR: empty summary"
    else { enhancement with snapshot := enhancement.snapshot.withSummary position summary }
  | (position, .error failure) => enhancement.report functions position failure.tagged

end Enhancement

namespace Snapshot

/-- The snapshot with every answer of a run written back. -/
def settle (snapshot : Snapshot) (outcomes : List (Nat × Except Failure String)) : Enhancement :=
  outcomes.foldl (Enhancement.settle snapshot.functions) ⟨snapshot, []⟩

/-- The function at a position with its answer, if it needs one. -/
def answerAt (answers : Nat → Except Failure String) (position : Nat) (record : FunctionRecord) :
    FunctionRecord × Option SummaryFailure :=
  if record.isSynthesized then Assistant.applyAnswer record (answers position) else (record, none)

/-- The snapshot with each function answered on its own. -/
def answered (snapshot : Snapshot) (answers : Nat → Except Failure String) : Enhancement :=
  let entries := snapshot.functions.mapIdx (answerAt answers)
  ⟨{ snapshot with functions := entries.map Prod.fst }, entries.filterMap Prod.snd⟩

end Snapshot

/-- The same answer again changes nothing. -/
theorem Assistant.applyAnswer_applyAnswer (record : FunctionRecord)
    (answer : Except Failure String) :
    (applyAnswer (applyAnswer record answer).1 answer).1 = (applyAnswer record answer).1 := by
  cases answer with
  | error failure => rfl
  | ok summary =>
    by_cases empty : summary.isEmpty <;> simp [applyAnswer, empty]

/-- What one answer changes: the function at its position, and the failures if it is one. -/
theorem Enhancement.settle_eq (functions : List FunctionRecord) (enhancement : Enhancement)
    (position : Nat) (answer : Except Failure String) :
    enhancement.settle functions (position, answer) =
      ⟨{ enhancement.snapshot with
          functions := enhancement.snapshot.functions.modify position fun record =>
            (Assistant.applyAnswer record answer).1 },
        enhancement.failures ++ (functions[position]?.bind fun record =>
          (Assistant.applyAnswer record answer).2).toList⟩ := by
  have unchanged : enhancement.snapshot.functions.modify position (fun record => record) =
      enhancement.snapshot.functions := List.modify_id position _
  cases answer with
  | error failure =>
    simp only [settle, report, Assistant.applyAnswer, unchanged, Option.map_eq_bind,
      Function.comp_def]
  | ok summary =>
    by_cases empty : summary.isEmpty
    · simp only [settle, report, Assistant.applyAnswer, if_pos empty, unchanged,
        Option.map_eq_bind, Function.comp_def]
    · simp only [settle, Snapshot.withSummary, Assistant.applyAnswer, if_neg empty,
        Option.bind_fun_none, Option.toList_none, List.append_nil]

/-- Functions with the answers for some positions. -/
def answerAmong (answers : Nat → Except Failure String) (positions : List Nat)
    (records : List FunctionRecord) : List FunctionRecord :=
  records.mapIdx fun position record =>
    if position ∈ positions then (Assistant.applyAnswer record (answers position)).1 else record

variable (answers : Nat → Except Failure String)

/-- No answers change nothing. -/
theorem answerAmong_nil (records : List FunctionRecord) :
    answerAmong answers [] records = records := by
  refine List.ext_getElem? fun position => ?_
  simp [answerAmong]

/-- One position answered before the others. A position that comes again gets the same answer
again. -/
theorem answerAmong_modify (first : Nat) (positions : List Nat) (records : List FunctionRecord) :
    answerAmong answers positions
        (records.modify first fun record => (Assistant.applyAnswer record (answers first)).1) =
      answerAmong answers (first :: positions) records := by
  refine List.ext_getElem? fun position => ?_
  simp only [answerAmong, List.getElem?_mapIdx, List.getElem?_modify, Option.map_eq_map,
    Option.map_map]
  refine Option.map_congr fun record _ => ?_
  by_cases same : first = position
  · subst same
    by_cases again : first ∈ positions <;> simp [again, Assistant.applyAnswer_applyAnswer]
  · simp [same, Ne.symm same]

/-- What answers at some positions change. -/
theorem Enhancement.foldl_settle (functions : List FunctionRecord) (positions : List Nat)
    (enhancement : Enhancement) :
    (positions.map fun position => (position, answers position)).foldl
        (settle functions) enhancement =
      ⟨{ enhancement.snapshot with
          functions := answerAmong answers positions enhancement.snapshot.functions },
        enhancement.failures ++ positions.filterMap fun position =>
          functions[position]?.bind fun record =>
            (Assistant.applyAnswer record (answers position)).2⟩ := by
  induction positions generalizing enhancement with
  | nil => simp [answerAmong_nil]
  | cons first positions induction =>
    rw [List.map_cons, List.foldl_cons, induction, settle_eq, List.filterMap_cons]
    simp only [answerAmong_modify, List.append_assoc]
    split <;> simp_all

variable (snapshot : Snapshot)

/-- The positions that need a summary ascend. -/
theorem Snapshot.pendingPositions_pairwise : snapshot.pendingPositions.Pairwise (· < ·) := by
  have ascending : (snapshot.functions.zipIdx.map Prod.snd).Pairwise (· < ·) := by
    rw [List.zipIdx_map_snd]
    exact List.pairwise_lt_range'
  exact ascending.sublist (List.filter_sublist.map Prod.snd)

/-- The positions that need a summary are listed. -/
theorem Snapshot.mem_pendingPositions (position : Nat) :
    position ∈ snapshot.pendingPositions ↔ snapshot.IsPending position := by
  simp [pendingPositions, IsPending, List.mem_zipIdx_iff_getElem?, FunctionRecord.isSynthesized]

variable {snapshot} in
/-- The function at a position tells whether the position needs a summary. -/
theorem Snapshot.isPending_iff {position : Nat} {record : FunctionRecord}
    (found : snapshot.functions[position]? = some record) :
    snapshot.IsPending position ↔ record.isSynthesized := by
  simp [IsPending, found, FunctionRecord.isSynthesized]

/-- What is said of the positions that need a summary is said of their functions. -/
theorem Snapshot.filterMap_pendingPositions {α : Type} (said : FunctionRecord → Nat → Option α) :
    (snapshot.pendingPositions.filterMap fun position =>
      snapshot.functions[position]?.bind fun record => said record position) =
      snapshot.functions.zipIdx.filterMap fun entry =>
        if entry.1.isSynthesized then said entry.1 entry.2 else none := by
  rw [pendingPositions, List.filterMap_map, List.filterMap_filter]
  refine List.filterMap_congr fun entry member => ?_
  have found := List.mem_zipIdx_iff_getElem?.mp member
  simp only [Function.comp_apply, found, Option.bind_some]

/-- The failures of the functions that need a summary, by position. -/
theorem Snapshot.answered_failures :
    (snapshot.answered answers).failures = snapshot.pendingPositions.filterMap fun position =>
      snapshot.functions[position]?.bind fun record =>
        (Assistant.applyAnswer record (answers position)).2 := by
  rw [filterMap_pendingPositions, answered, List.mapIdx_eq_zipIdx_map, List.filterMap_map]
  refine List.filterMap_congr fun entry _ => ?_
  simp only [Function.comp_apply, answerAt]
  split <;> rfl

/-- Answers for exactly the functions that need one answer each of them on its own. -/
theorem Snapshot.settle_pendingPositions :
    snapshot.settle (snapshot.pendingPositions.map fun position => (position, answers position)) =
      snapshot.answered answers := by
  have functions : answerAmong answers snapshot.pendingPositions snapshot.functions =
      (snapshot.functions.mapIdx (answerAt answers)).map Prod.fst := by
    refine List.ext_getElem? fun position => ?_
    simp only [answerAmong, List.getElem?_mapIdx, List.getElem?_map, Option.map_map]
    refine Option.map_congr fun record found => ?_
    simp only [mem_pendingPositions, isPending_iff found, Function.comp_apply, answerAt]
    split <;> rfl
  rw [settle, Enhancement.foldl_settle, ← answered_failures, functions, List.nil_append, answered]

/-! ## What an enhancement is -/

/-- The answer is the text of a summary. -/
def IsSummary : Except Failure String → Prop
  | .ok summary => summary ≠ ""
  | .error _ => False

/-- Whether an answer is a summary can be tested. -/
instance : DecidablePred IsSummary
  | .ok summary => inferInstanceAs (Decidable (summary ≠ ""))
  | .error _ => inferInstanceAs (Decidable False)

/-- What is told about a function in place of a summary. -/
def complaint : Except Failure String → String
  | .ok _ => "MODEL_ERROR: empty summary"
  | .error failure => failure.tagged

/-- The failure is that of the function at a position, and its text says who is at fault. -/
structure Reports (snapshot : Snapshot) (answers : Nat → Except Failure String) (position : Nat)
    (failure : SummaryFailure) : Prop where
  /-- It has the name of that function. -/
  named : snapshot.functions[position]?.map FunctionRecord.name = some failure.function
  /-- It tells what was wrong with the answer for that function. -/
  told : failure.message = complaint (answers position)
  /-- It begins with a tag. -/
  tagged : ∃ tag ∈ ["MODEL_ERROR: ", "HTTP_ERROR: ", "SYSTEM_ERROR: "],
    tag.toList <+: failure.message.toList

/-- An enhancement of a snapshot by answers: it has the summaries among the answers where the
snapshot needs them, one failure for each other answer, and no other change. -/
structure Enhanced (snapshot : Snapshot) (answers : Nat → Except Failure String)
    (enhancement : Enhancement) : Prop where
  /-- Only functions change. -/
  others : enhancement.snapshot = { snapshot with functions := enhancement.snapshot.functions }
  /-- None is added or lost. -/
  length : enhancement.snapshot.functions.length = snapshot.functions.length
  /-- A function that needs a summary has that of its answer and is as before otherwise. -/
  written : ∀ position record summary, snapshot.functions[position]? = some record →
    record.summarySource = .synthesized → answers position = .ok summary → summary ≠ "" →
      enhancement.snapshot.functions[position]? =
        some { record with summary := summary, summarySource := .generated }
  /-- Every other function is as before. -/
  kept : ∀ position record, snapshot.functions[position]? = some record →
    ¬ (record.summarySource = .synthesized ∧ IsSummary (answers position)) →
      enhancement.snapshot.functions[position]? = some record
  /-- The failures are those of the functions left without a summary, in source order. -/
  failures : ∃ failed : List Nat, failed.Pairwise (· < ·) ∧
    (∀ position, position ∈ failed ↔
      snapshot.IsPending position ∧ ¬ IsSummary (answers position)) ∧
    List.Forall₂ (Reports snapshot answers) failed enhancement.failures

/-- A summary is a text that is not empty. -/
theorem IsSummary.exists_ok {answer : Except Failure String} (useful : IsSummary answer) :
    ∃ summary, answer = .ok summary ∧ summary ≠ "" := by
  cases answer with
  | ok summary => exact ⟨summary, rfl, useful⟩
  | error failure => exact useful.elim

/-- A tag begins the text of every failure. -/
theorem exists_tag_complaint (answer : Except Failure String) :
    ∃ tag ∈ ["MODEL_ERROR: ", "HTTP_ERROR: ", "SYSTEM_ERROR: "],
      tag.toList <+: (complaint answer).toList := by
  cases answer with
  | ok summary => exact ⟨"MODEL_ERROR: ", List.mem_cons_self, by simp [complaint]⟩
  | error failure =>
    refine ⟨failure.tag.text ++ ": ", ?_, ?_⟩
    · cases failure.tag <;> decide
    · simp only [complaint, Failure.tagged, String.toList_append]
      exact List.prefix_append _ _

/-- An answer is a summary or a failure. -/
theorem applyAnswer_of_not_isSummary (record : FunctionRecord) {answer : Except Failure String}
    (useless : ¬ IsSummary answer) :
    Assistant.applyAnswer record answer = (record, some ⟨record.name, complaint answer⟩) := by
  cases answer with
  | error failure => rfl
  | ok summary =>
    have empty : summary = "" := not_not.mp useless
    subst empty
    rfl

/-- A summary takes the place of the one before. -/
theorem applyAnswer_ok (record : FunctionRecord) {summary : String} (nonempty : summary ≠ "") :
    Assistant.applyAnswer record (.ok summary) =
      ({ record with summary := summary, summarySource := .generated }, none) := by
  have : ¬ summary.isEmpty := by simpa using nonempty
  rw [Assistant.applyAnswer, if_neg this]

/-- Failures come in the order of their positions. -/
theorem reports_filterMap {positions : List Nat}
    (known : ∀ position ∈ positions, ∃ record, snapshot.functions[position]? = some record) :
    List.Forall₂ (Reports snapshot answers)
      (positions.filter fun position => ¬ IsSummary (answers position))
      (positions.filterMap fun position => snapshot.functions[position]?.bind fun record =>
        (Assistant.applyAnswer record (answers position)).2) := by
  induction positions with
  | nil => exact .nil
  | cons first positions induction =>
    have others := induction fun position member => known position (List.mem_cons_of_mem _ member)
    obtain ⟨record, found⟩ := known first List.mem_cons_self
    by_cases useful : IsSummary (answers first)
    · obtain ⟨summary, given, nonempty⟩ := useful.exists_ok
      rw [List.filter_cons_of_neg (by simpa using useful), List.filterMap_cons_none]
      · exact others
      · rw [found, given, Option.bind_some, applyAnswer_ok record nonempty]
    · simp only [useful, not_false_eq_true, decide_true, List.filter_cons_of_pos, found,
        Option.bind_some, applyAnswer_of_not_isSummary record useful, List.filterMap_cons]
      exact .cons ⟨by simp [found], rfl, exists_tag_complaint _⟩ others

/-- Answering each function on its own enhances the snapshot. -/
theorem Snapshot.enhanced_answered : Enhanced snapshot answers (snapshot.answered answers) where
  others := rfl
  length := by simp [answered]
  written := by
    intro position record summary found synthesized given nonempty
    simp [answered, found, answerAt, FunctionRecord.isSynthesized, synthesized, given,
      applyAnswer_ok record nonempty]
  kept := by
    intro position record found kept
    have unchanged : (answerAt answers position record).1 = record := by
      by_cases synthesized : record.summarySource = .synthesized
      · have useless : ¬ IsSummary (answers position) := fun useful => kept ⟨synthesized, useful⟩
        simp [answerAt, FunctionRecord.isSynthesized, synthesized,
          applyAnswer_of_not_isSummary record useless]
      · simp [answerAt, FunctionRecord.isSynthesized, synthesized]
    simp [answered, found, unchanged]
  failures := by
    refine ⟨snapshot.pendingPositions.filter fun position => ¬ IsSummary (answers position),
      snapshot.pendingPositions_pairwise.filter _, ?_, ?_⟩
    · intro position
      simp [mem_pendingPositions]
    · rw [answered_failures]
      refine reports_filterMap answers snapshot fun position member => ?_
      obtain ⟨record, found, _⟩ := (snapshot.mem_pendingPositions position).mp member
      exact ⟨record, found⟩

/-! ## The assistant -/

namespace Assistant

variable (assistant : Assistant)

/-- The answers are those of the assistant to the questions about the functions. -/
def Gives (assistant : Assistant) (snapshot : Snapshot) (answers : Nat → Except Failure String) :
    Prop :=
  ∀ position record, snapshot.functions[position]? = some record → record.isSynthesized →
    answers position =
      (assistant.summarize record.name record.sourceSlice snapshot.language).value

/-- The question about the function at a position. -/
def questionAt? (assistant : Assistant) (snapshot : Snapshot) (position : Nat) : Option Question :=
  snapshot.functions[position]?.map fun record =>
    assistant.summaryQuestion record.name record.sourceSlice snapshot.language

/-- The assistant answers each function on its own. -/
theorem enhanceRecords_value (language : Language) {records : List FunctionRecord}
    {answers : Nat → Except Failure String}
    (given : ∀ position record, records[position]? = some record → record.isSynthesized →
      answers position = (assistant.summarize record.name record.sourceSlice language).value) :
    (assistant.enhanceRecords language records).value =
      ((records.mapIdx (Snapshot.answerAt answers)).map Prod.fst,
        (records.mapIdx (Snapshot.answerAt answers)).filterMap Prod.snd) := by
  induction records generalizing answers with
  | nil => rfl
  | cons record records induction =>
    have later := @induction (fun position => answers (position + 1))
      fun position record found => given (position + 1) record found
    have first := given 0 record rfl
    have shifted : (fun position => Snapshot.answerAt answers (position + 1)) =
        Snapshot.answerAt fun position => answers (position + 1) := rfl
    rw [List.mapIdx_cons, shifted, List.map_cons, List.filterMap_cons]
    by_cases synthesized : record.isSynthesized
    · simp only [enhanceRecords, synthesized, if_true, later, Snapshot.answerAt, first synthesized]
      split <;> simp_all
    · simp only [enhanceRecords, synthesized, later, Snapshot.answerAt, Bool.false_eq_true,
        if_false]

/-- The questions in the order of the functions. -/
theorem enhanceRecords_questions (language : Language) (records : List FunctionRecord) :
    (assistant.enhanceRecords language records).questions =
      records.filterMap fun record =>
        if record.isSynthesized then
          some (assistant.summaryQuestion record.name record.sourceSlice language)
        else none := by
  induction records with
  | nil => rfl
  | cons record records induction =>
    by_cases synthesized : record.isSynthesized
    · simp [enhanceRecords, summarize, synthesized, induction]
    · simp [enhanceRecords, synthesized, induction]

/-- The questions are those about the positions that need a summary. -/
theorem filterMap_questionAt? :
    snapshot.pendingPositions.filterMap (assistant.questionAt? snapshot) =
      (assistant.enhance snapshot).questions := by
  have byRecord := snapshot.filterMap_pendingPositions fun record _ =>
    some (assistant.summaryQuestion record.name record.sourceSlice snapshot.language)
  rw [enhance, enhanceRecords_questions]
  conv_rhs => rw [← List.zipIdx_map_fst 0 snapshot.functions, List.filterMap_map]
  refine Eq.trans (List.filterMap_congr fun position _ => ?_) byRecord
  rw [questionAt?, Option.map_eq_bind, Function.comp_def]

/-- Whatever the limit and the schedule of the buffer are, a run never lets more questions wait
than the limit says, asks about no function twice and about none that has a summary, and can be
brought to its end. A run at its end has asked about every function that needs a summary, and
its answers written back enhance the snapshot. The result is the same for every limit and every
schedule, and for an assistant it is what the assistant gives. -/
theorem enhance_eq_settle_of_run (snapshot : Snapshot) (answers : Nat → Except Failure String)
    (concurrency : Nat) (schedule : List Buffer.Event) {buffer : Buffer}
    (ran : (Buffer.start snapshot.pendingPositions).run? (max concurrency 1) answers schedule =
      some buffer) :
    (buffer.window.length ≤ max concurrency 1 ∧ buffer.asked.Nodup ∧
      ∀ position ∈ buffer.asked, snapshot.IsPending position) ∧
    (schedule.length ≤ 4 * snapshot.functions.length ∧
      ∃ later last, buffer.run? (max concurrency 1) answers later = some last ∧
        last.isFinished) ∧
    (buffer.isFinished →
      (∀ position, position ∈ buffer.asked ↔ snapshot.IsPending position) ∧
      Enhanced snapshot answers (snapshot.settle buffer.outcomes) ∧
      (∀ (otherConcurrency : Nat) (otherSchedule : List Buffer.Event) (other : Buffer),
        (Buffer.start snapshot.pendingPositions).run? (max otherConcurrency 1) answers
          otherSchedule = some other → other.isFinished →
        snapshot.settle other.outcomes = snapshot.settle buffer.outcomes) ∧
      ∀ assistant : Assistant, assistant.Gives snapshot answers →
        snapshot.settle buffer.outcomes = (assistant.enhance snapshot).value ∧
        (buffer.asked.filterMap (assistant.questionAt? snapshot)).Perm
          (assistant.enhance snapshot).questions) := by
  have distinct : snapshot.pendingPositions.Nodup :=
    snapshot.pendingPositions_pairwise.imp Nat.ne_of_lt
  obtain ⟨sound, length⟩ := (Buffer.sound_start _ answers snapshot.pendingPositions).run ran
  obtain ⟨listed, same, within⟩ := sound.asked_subperm
  refine ⟨⟨sound.bounded, same.nodup_iff.mp (distinct.sublist within), fun position member =>
    (snapshot.mem_pendingPositions position).mp (within.subset (same.mem_iff.mpr member))⟩,
    ⟨?_, ?_⟩, ?_⟩
  · have pending : snapshot.pendingPositions.length ≤ snapshot.functions.length := by
      simpa [Snapshot.pendingPositions] using
        List.length_filter_le (fun entry => entry.1.isSynthesized) snapshot.functions.zipIdx
    simp only [Buffer.remaining, Buffer.start, List.map_nil, List.sum_nil] at length
    omega
  · exact sound.finishes (by omega)
  · intro finished
    obtain ⟨every, outcomes⟩ := sound.finished finished
    rw [outcomes, snapshot.settle_pendingPositions]
    refine ⟨fun position => every.mem_iff.trans (snapshot.mem_pendingPositions position),
      snapshot.enhanced_answered answers, ?_, ?_⟩
    · intro otherConcurrency otherSchedule other otherRan otherFinished
      have otherSound := (Buffer.sound_start _ answers snapshot.pendingPositions).run otherRan
      rw [(otherSound.1.finished otherFinished).2, snapshot.settle_pendingPositions]
    · intro assistant gives
      constructor
      · rw [enhance, assistant.enhanceRecords_value snapshot.language gives, Snapshot.answered]
      · rw [← assistant.filterMap_questionAt? snapshot]
        exact every.filterMap _

/-- Functions with and without summaries, three of them with one name. -/
def namesakes : Snapshot :=
  { Snapshot.empty .python with
    functions :=
      [⟨"f", "Adds.", .docComment, "1", 1, 1⟩, ⟨"f", "Function", .synthesized, "2", 2, 2⟩,
        ⟨"g", "Function", .synthesized, "3", 3, 3⟩, ⟨"h", "Kept.", .generated, "4", 4, 4⟩,
        ⟨"f", "Function", .synthesized, "5", 5, 5⟩] }

/-- An assistant that knows one function. -/
def forgetful : Assistant :=
  { name := "forgetful"
    ask := fun question =>
      if question = ⟨Prompt.summary "f" "Python" "5", 9⟩ then (.ok " Counts. \nMore", [])
      else if question = ⟨Prompt.summary "g" "Python" "3", 9⟩ then (.ok "", [])
      else (.error (.request ⟨.network, "down", none⟩), [])
    summaryTokens := 9
    conversionTokens := 9 }

/-- The answers of that assistant by position. -/
def forgetfulAnswers : Nat → Except Failure String
  | 1 => .error (.request ⟨.network, "down", none⟩)
  | 2 => .ok ""
  | _ => .ok "Counts."

/-- Two questions wait at a time, and the second is answered first. -/
def overtaking : List Buffer.Event :=
  [.enter, .enter, .ask 1, .ask 0, .answer 1, .answer 0, .leave, .enter, .ask 1, .answer 1, .leave,
    .leave]

/-- One question waits at a time. -/
def inTurn : List Buffer.Event :=
  [.enter, .ask 0, .answer 0, .leave, .enter, .ask 0, .answer 0, .leave, .enter, .ask 0, .answer 0,
    .leave]

/-- Answers that overtake each other go to the right functions, also when no question may wait. -/
theorem enhance_namesakes :
    ∃ buffer other,
      (Buffer.start namesakes.pendingPositions).run? (max 2 1) forgetfulAnswers overtaking =
        some buffer ∧
      (Buffer.start namesakes.pendingPositions).run? (max 0 1) forgetfulAnswers inTurn =
        some other ∧
      buffer.asked = [2, 1, 4] ∧ other.asked = [1, 2, 4] ∧
      namesakes.settle other.outcomes = namesakes.settle buffer.outcomes ∧
      namesakes.settle buffer.outcomes = (forgetful.enhance namesakes).value ∧
      (forgetful.enhance namesakes).value.snapshot.functions.map FunctionRecord.summary =
        ["Adds.", "Function", "Function", "Kept.", "Counts."] ∧
      (forgetful.enhance namesakes).value.failures =
        [⟨"f", "HTTP_ERROR: [NETWORK] down"⟩, ⟨"g", "MODEL_ERROR: empty summary"⟩] := by
  have gives : forgetful.Gives namesakes forgetfulAnswers := by
    intro position record found synthesized
    have bound : position < 5 := (List.getElem?_eq_some_iff.mp found).1
    interval_cases position <;> cases found
    all_goals first | contradiction | decide +kernel
  have finished := (enhance_eq_settle_of_run namesakes forgetfulAnswers 2 overtaking rfl).2.2 rfl
  have settled := (finished.2.2.2 forgetful gives).1
  refine ⟨_, _, rfl, rfl, rfl, rfl, finished.2.2.1 0 inTurn _ rfl rfl, settled, ?_, ?_⟩
  · rw [← settled]
    decide +kernel
  · rw [← settled]
    decide +kernel

end Assistant

end SourceOutline
