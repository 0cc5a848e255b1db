import Mathlib.Data.List.Induction
import SourceOutline.Proofs.Assistant.Enhancement

/-!
# Summaries over several rounds

A round asks about every function that needs a summary, and the next round starts from what it
left. Each round may have an assistant, a limit and an order of answers of its own. What the
rounds so far have left is said once, by `Snapshot.heard`: a function has the first summary that
it was given in any of them, and one that was given none still needs one. A round keeps this
(`Snapshot.answered_heard`), so it holds along every sequence of rounds (`turn_of_turns?`).
-/

namespace SourceOutline

/-- One round of questions. -/
structure Round where
  /-- What the answer is if the function at a position is asked about. -/
  answers : Nat → Except Failure String
  /-- How many questions may wait together. -/
  concurrency : Nat
  /-- The order in which questions are put and answers come. -/
  schedule : List Buffer.Event

/-- What a round leaves behind. -/
structure Turn where
  /-- The positions of the functions asked about, in the order of the questions. -/
  asked : List Nat
  /-- The snapshot after the round, and what went wrong in it. -/
  enhancement : Enhancement

/-- What a round leaves of a snapshot, if its schedule can happen and leaves nothing out. -/
def Round.run? (round : Round) (snapshot : Snapshot) : Option Turn :=
  ((Buffer.start snapshot.pendingPositions).run? (max round.concurrency 1) round.answers
    round.schedule).bind fun buffer =>
      if buffer.isFinished then some ⟨buffer.asked, snapshot.settle buffer.outcomes⟩ else none

namespace Snapshot

/-- What each of several rounds leaves, each of them run on what the one before left. -/
def turns? : Snapshot → List Round → Option (List Turn)
  | _, [] => some []
  | snapshot, round :: rounds =>
    (round.run? snapshot).bind fun turn =>
      (turn.enhancement.snapshot.turns? rounds).map fun turns => turn :: turns

/-- The snapshot that is left at the end. -/
def after (snapshot : Snapshot) (turns : List Turn) : Snapshot :=
  (turns.getLast?.map fun turn => turn.enhancement.snapshot).getD snapshot

end Snapshot

/-! ## The first summary -/

/-- The summary that an answer holds. -/
def summaryOf? : Except Failure String → Option String
  | .ok summary => if summary = "" then none else some summary
  | .error _ => none

/-- The first summary that some rounds have for the function at a position. -/
def firstSummary? (rounds : List Round) (position : Nat) : Option String :=
  rounds.findSome? fun round => summaryOf? (round.answers position)

/-- A function that needs a summary, after it was given one or not. -/
def FunctionRecord.given (record : FunctionRecord) : Option String → FunctionRecord
  | some summary => { record with summary := summary, summarySource := .generated }
  | none => record

/-- The snapshot with the first summaries of some rounds. -/
def Snapshot.heard (snapshot : Snapshot) (rounds : List Round) : Snapshot :=
  { snapshot with
    functions := snapshot.functions.mapIdx fun position record =>
      if record.isSynthesized then record.given (firstSummary? rounds position) else record }

/-- An answer holds a summary or not. -/
theorem summaryOf?_eq_none_iff (answer : Except Failure String) :
    summaryOf? answer = none ↔ ¬ IsSummary answer := by
  cases answer with
  | ok summary => simp [summaryOf?, IsSummary]
  | error failure => simp [summaryOf?, IsSummary]

/-- An answer changes a function as far as it holds a summary. -/
theorem applyAnswer_fst (record : FunctionRecord) (answer : Except Failure String) :
    (Assistant.applyAnswer record answer).1 = record.given (summaryOf? answer) := by
  by_cases useful : IsSummary answer
  · obtain ⟨summary, rfl, nonempty⟩ := useful.exists_ok
    rw [applyAnswer_ok record nonempty, summaryOf?, if_neg nonempty, FunctionRecord.given]
  · rw [applyAnswer_of_not_isSummary record useful, (summaryOf?_eq_none_iff answer).mpr useful,
      FunctionRecord.given]

/-- A function that was given a summary needs none. -/
@[simp] theorem FunctionRecord.isSynthesized_given_some (record : FunctionRecord)
    (summary : String) : (record.given (some summary)).isSynthesized = false := rfl

/-- A function that was given nothing is as before. -/
@[simp] theorem FunctionRecord.given_none (record : FunctionRecord) : record.given none = record :=
  rfl

variable (snapshot : Snapshot)

/-- A function after some rounds. -/
theorem Snapshot.getElem?_heard (rounds : List Round) (position : Nat) :
    (snapshot.heard rounds).functions[position]? =
      snapshot.functions[position]?.map fun record =>
        if record.isSynthesized then record.given (firstSummary? rounds position) else record := by
  simp [heard]

/-- Nothing is heard before the first round. -/
theorem Snapshot.heard_nil : snapshot.heard [] = snapshot := by
  have unchanged : (snapshot.heard []).functions = snapshot.functions := by
    refine List.ext_getElem? fun position => ?_
    simp [getElem?_heard, firstSummary?]
  exact congrArg (fun functions => { snapshot with functions := functions }) unchanged

/-- Only functions that need a summary and were given none still need one. -/
theorem Snapshot.isPending_heard (rounds : List Round) (position : Nat) :
    (snapshot.heard rounds).IsPending position ↔
      snapshot.IsPending position ∧ firstSummary? rounds position = none := by
  cases found : snapshot.functions[position]? with
  | none => simp [IsPending, getElem?_heard, found]
  | some record =>
    rw [isPending_iff found, isPending_iff (by rw [getElem?_heard, found, Option.map_some])]
    by_cases synthesized : record.isSynthesized
    · cases firstSummary? rounds position <;> simp [synthesized]
    · simp [synthesized]

/-- A round adds its summaries to those of the rounds before it. -/
theorem Snapshot.answered_heard (rounds : List Round) (round : Round) :
    ((snapshot.heard rounds).answered round.answers).snapshot =
      snapshot.heard (rounds ++ [round]) := by
  have functions : ((snapshot.heard rounds).answered round.answers).snapshot.functions =
      (snapshot.heard (rounds ++ [round])).functions := by
    refine List.ext_getElem? fun position => ?_
    simp only [answered, List.getElem?_map, List.getElem?_mapIdx, getElem?_heard, Option.map_map]
    refine Option.map_congr fun record _ => ?_
    simp only [Function.comp_apply, answerAt, firstSummary?, List.findSome?_append,
      List.findSome?_cons, List.findSome?_nil]
    -- A function that was given a summary needs none, whatever this round would answer.
    by_cases synthesized : record.isSynthesized
    · cases List.findSome? (fun round => summaryOf? (round.answers position)) rounds with
      | none =>
        simp only [if_pos synthesized, FunctionRecord.given_none, applyAnswer_fst, Option.none_or]
        cases summaryOf? (round.answers position) <;> rfl
      | some summary => simp [synthesized]
    · simp [synthesized]
  exact congrArg (fun functions => { snapshot with functions := functions }) functions

/-! ## Along a sequence of rounds -/

variable {snapshot}

/-- What a round that is run leaves: it asked about every function that needs a summary, once,
and answered each on its own. -/
theorem Round.turn_of_run? {round : Round} {turn : Turn} (ran : round.run? snapshot = some turn) :
    turn.asked.Perm snapshot.pendingPositions ∧
      turn.enhancement = snapshot.answered round.answers := by
  obtain ⟨buffer, passed, finished⟩ := Option.bind_eq_some_iff.mp ran
  rw [Option.ite_none_right_eq_some, Option.some.injEq] at finished
  obtain ⟨finished, rfl⟩ := finished
  obtain ⟨every, outcomes⟩ :=
    ((Buffer.sound_start _ round.answers snapshot.pendingPositions).run passed).1.finished finished
  exact ⟨every, by rw [outcomes, snapshot.settle_pendingPositions]⟩

/-- Every round can be run in some order. -/
theorem Round.exists_run? (snapshot : Snapshot) (answers : Nat → Except Failure String)
    (concurrency : Nat) :
    ∃ schedule turn, (Round.mk answers concurrency schedule).run? snapshot = some turn := by
  obtain ⟨schedule, last, passed, finished⟩ :=
    (Buffer.sound_start (max concurrency 1) answers snapshot.pendingPositions).finishes (by omega)
  exact ⟨schedule, _, by rw [run?, passed, Option.bind_some, if_pos finished]⟩

/-- There is one turn for each round. -/
theorem Snapshot.length_turns? {rounds : List Round} {turns : List Turn}
    (ran : snapshot.turns? rounds = some turns) : turns.length = rounds.length := by
  induction rounds generalizing snapshot turns with
  | nil => cases ran; rfl
  | cons round rounds induction =>
    obtain ⟨turn, -, later⟩ := Option.bind_eq_some_iff.mp ran
    obtain ⟨turns, others, rfl⟩ := Option.map_eq_some_iff.mp later
    rw [List.length_cons, List.length_cons, induction others]

/-- What the first turn left is where the others start. -/
theorem Snapshot.after_cons (turn : Turn) (turns : List Turn) :
    snapshot.after (turn :: turns) = turn.enhancement.snapshot.after turns := by
  cases turns <;> simp [after, List.getLast?_cons]

/-- Rounds go on where the rounds before them stopped. -/
theorem Snapshot.turns?_append (rounds others : List Round) :
    snapshot.turns? (rounds ++ others) = (snapshot.turns? rounds).bind fun turns =>
      ((snapshot.after turns).turns? others).map fun later => turns ++ later := by
  induction rounds generalizing snapshot with
  | nil => simp [turns?, after]
  | cons round rounds induction =>
    simp only [List.cons_append, turns?, Option.bind_assoc, Option.map_bind, induction]
    refine Option.bind_congr fun turn _ => ?_
    cases turn.enhancement.snapshot.turns? rounds with
    | none => rfl
    | some turns => simp [after_cons, Function.comp_def]

/-- After some rounds the snapshot has their first summaries. -/
theorem Snapshot.after_eq_heard {rounds : List Round} {turns : List Turn}
    (ran : snapshot.turns? rounds = some turns) : snapshot.after turns = snapshot.heard rounds := by
  induction rounds using List.reverseRecOn generalizing turns with
  | nil =>
    cases ran
    rw [heard_nil]
    rfl
  | append_singleton rounds round induction =>
    rw [turns?_append] at ran
    obtain ⟨earlier, before, later⟩ := Option.bind_eq_some_iff.mp ran
    obtain ⟨last, ranLast, rfl⟩ := Option.map_eq_some_iff.mp later
    obtain ⟨turn, ranRound, rest⟩ := Option.bind_eq_some_iff.mp ranLast
    cases rest
    have left := (Round.turn_of_run? ranRound).2
    rw [induction before] at left
    simp [after, left, answered_heard]

/-- A turn and its round, with the snapshot that the rounds before have left. -/
theorem Snapshot.turn_of_turns? {rounds : List Round} {turns : List Turn}
    (ran : snapshot.turns? rounds = some turns) {index : Nat} {turn : Turn}
    (found : turns[index]? = some turn) :
    ∃ round, rounds[index]? = some round ∧
      snapshot.after (turns.take index) = snapshot.heard (rounds.take index) ∧
      turn.asked.Perm (snapshot.heard (rounds.take index)).pendingPositions ∧
      turn.enhancement = (snapshot.heard (rounds.take index)).answered round.answers := by
  have same := length_turns? ran
  obtain ⟨bound, rfl⟩ := List.getElem?_eq_some_iff.mp found
  have within : index < rounds.length := same ▸ bound
  rw [← List.take_append_drop index rounds, turns?_append] at ran
  obtain ⟨earlier, before, later⟩ := Option.bind_eq_some_iff.mp ran
  obtain ⟨others, ranOthers, rfl⟩ := Option.map_eq_some_iff.mp later
  have front : earlier.length = index := by
    rw [length_turns? before, List.length_take, Nat.min_eq_left within.le]
  rw [after_eq_heard before, List.drop_eq_getElem_cons within] at ranOthers
  obtain ⟨turn, ranRound, rest⟩ := Option.bind_eq_some_iff.mp ranOthers
  obtain ⟨others, -, rfl⟩ := Option.map_eq_some_iff.mp rest
  subst front
  obtain ⟨asked, left⟩ := Round.turn_of_run? ranRound
  refine ⟨rounds[earlier.length], List.getElem?_eq_getElem within, ?_, ?_, ?_⟩
  · rw [List.take_left, after_eq_heard before]
  · simpa using asked
  · simpa using left

/-! ## The same answers again -/

/-- The answers for the functions of a snapshot that need a summary go by the name, the text and
the language of the function alone. -/
def Round.RepliesBy (reply : String → String → Language → Except Failure String)
    (snapshot : Snapshot) (round : Round) : Prop :=
  ∀ position record, snapshot.functions[position]? = some record → record.isSynthesized →
    round.answers position = reply record.name record.sourceSlice snapshot.language

/-- A function that was answered is not changed by the same answer, and is told about again if it
was told about before. -/
theorem Snapshot.answerAt_answerAt {answers others : Nat → Except Failure String} {position : Nat}
    {record : FunctionRecord}
    (same : record.isSynthesized → ¬ IsSummary (answers position) →
      others position = answers position) :
    answerAt others position (answerAt answers position record).1 =
      answerAt answers position record := by
  by_cases synthesized : record.isSynthesized
  · by_cases useful : IsSummary (answers position)
    · obtain ⟨summary, given, nonempty⟩ := useful.exists_ok
      have written : answerAt answers position record = (record.given (some summary), none) := by
        rw [answerAt, if_pos synthesized, given, applyAnswer_ok record nonempty,
          FunctionRecord.given]
      rw [written, answerAt, FunctionRecord.isSynthesized_given_some, if_neg Bool.false_ne_true]
    · simp [answerAt, synthesized, applyAnswer_of_not_isSummary record useful,
        same synthesized useful]
  · simp [answerAt, synthesized]

/-- A snapshot that was answered is not changed by the same answers, and the failures are the
same. -/
theorem Snapshot.answered_answered {answers others : Nat → Except Failure String}
    (same : ∀ position record, snapshot.functions[position]? = some record →
      record.isSynthesized → ¬ IsSummary (answers position) →
        others position = answers position) :
    (snapshot.answered answers).snapshot.answered others = snapshot.answered answers := by
  have entries : ((snapshot.functions.mapIdx (answerAt answers)).map Prod.fst).mapIdx
      (answerAt others) = snapshot.functions.mapIdx (answerAt answers) := by
    refine List.ext_getElem? fun position => ?_
    simp only [List.getElem?_mapIdx, List.getElem?_map, Option.map_map]
    refine Option.map_congr fun record found => ?_
    exact answerAt_answerAt (same position record found)
  simp only [answered, entries]

/-- A function left without a summary is in the snapshot as before. -/
theorem Snapshot.getElem?_answered {answers : Nat → Except Failure String} {position : Nat}
    {record : FunctionRecord} (found : snapshot.functions[position]? = some record)
    (useless : ¬ IsSummary (answers position)) :
    (snapshot.answered answers).snapshot.functions[position]? = some record :=
  (snapshot.enhanced_answered answers).kept position record found fun both => useless both.2

/-- A round that answers as the one before it did changes nothing and reports the same. -/
theorem Round.RepliesBy.answered_again
    {reply : String → String → Language → Except Failure String} {round again : Round}
    (first : round.RepliesBy reply snapshot)
    (second : again.RepliesBy reply (snapshot.answered round.answers).snapshot) :
    (snapshot.answered round.answers).snapshot.answered again.answers =
      snapshot.answered round.answers := by
  refine Snapshot.answered_answered fun position record found synthesized useless => ?_
  rw [first position record found synthesized]
  exact second position record (Snapshot.getElem?_answered found useless) synthesized

/-! ## Every sequence of rounds -/

/-- The first summary among the answers of some rounds for the function at a position. -/
def FirstSummary (rounds : List Round) (position : Nat) (summary : String) : Prop :=
  ∃ earlier round later, rounds = earlier ++ round :: later ∧
    round.answers position = .ok summary ∧ summary ≠ "" ∧
    ∀ before ∈ earlier, ¬ IsSummary (before.answers position)

/-- The summary of an answer is its text. -/
theorem summaryOf?_eq_some_iff (answer : Except Failure String) (summary : String) :
    summaryOf? answer = some summary ↔ answer = .ok summary ∧ summary ≠ "" := by
  cases answer with
  | ok text =>
    simp only [summaryOf?, Option.ite_none_left_eq_some, Option.some.injEq, Except.ok.injEq]
    exact ⟨fun ⟨nonempty, same⟩ => ⟨same, same ▸ nonempty⟩,
      fun ⟨same, nonempty⟩ => ⟨same ▸ nonempty, same⟩⟩
  | error failure => simp [summaryOf?]

/-- The search finds the first summary. -/
theorem firstSummary?_eq_some_iff (rounds : List Round) (position : Nat) (summary : String) :
    firstSummary? rounds position = some summary ↔ FirstSummary rounds position summary := by
  simp only [firstSummary?, List.findSome?_eq_some_iff, summaryOf?_eq_some_iff,
    summaryOf?_eq_none_iff, FirstSummary, and_assoc]

/-- The search finds nothing when no answer is a summary. -/
theorem firstSummary?_eq_none_iff (rounds : List Round) (position : Nat) :
    firstSummary? rounds position = none ↔
      ∀ round ∈ rounds, ¬ IsSummary (round.answers position) := by
  simp only [firstSummary?, List.findSome?_eq_none_iff, summaryOf?_eq_none_iff]

/-- A function that needs no summary is the same after any rounds. -/
theorem Snapshot.getElem?_heard_of_not_synthesized {position : Nat} {record : FunctionRecord}
    (found : snapshot.functions[position]? = some record)
    (settled : record.summarySource ≠ .synthesized) (rounds : List Round) :
    (snapshot.heard rounds).functions[position]? = some record := by
  rw [getElem?_heard, found, Option.map_some,
    if_neg (by simpa [FunctionRecord.isSynthesized] using settled)]

/-- A function that needs a summary has the first it was given, if any. -/
theorem Snapshot.getElem?_heard_of_synthesized {position : Nat} {record : FunctionRecord}
    (found : snapshot.functions[position]? = some record)
    (synthesized : record.summarySource = .synthesized) (rounds : List Round) :
    (snapshot.heard rounds).functions[position]? =
      some (record.given (firstSummary? rounds position)) := by
  rw [getElem?_heard, found, Option.map_some,
    if_pos (by simpa [FunctionRecord.isSynthesized] using synthesized)]

/-- Along every sequence of rounds, each with answers, a limit and a schedule of its own: a
function that needs a summary ends with the first that any round gave it, and as it was if none
did; a round asks once about each function that needs a summary and was given none before, and
about no other; a function with a summary of its own is never changed and never asked about. What
a round leaves is what an assistant with its answers gives, a round whose answers are those of
the round before changes nothing and reports the same failures, and there can always be a further
round. -/
theorem Snapshot.turns?_keep_first_summaries (snapshot : Snapshot) (rounds : List Round)
    {turns : List Turn} (ran : snapshot.turns? rounds = some turns) :
    (∀ position record, snapshot.functions[position]? = some record →
      record.summarySource = .synthesized →
      (∀ summary, FirstSummary rounds position summary →
        (snapshot.after turns).functions[position]? =
          some { record with summary := summary, summarySource := .generated }) ∧
      ((∀ round ∈ rounds, ¬ IsSummary (round.answers position)) →
        (snapshot.after turns).functions[position]? = some record)) ∧
    (∀ index turn, turns[index]? = some turn → turn.asked.Nodup ∧
      ∀ position, position ∈ turn.asked ↔ snapshot.IsPending position ∧
        ∀ round ∈ rounds.take index, ¬ IsSummary (round.answers position)) ∧
    (∀ position record, snapshot.functions[position]? = some record →
      record.summarySource ≠ .synthesized → ∀ turn ∈ turns,
        turn.enhancement.snapshot.functions[position]? = some record ∧
        position ∉ turn.asked) ∧
    (∀ index turn round, turns[index]? = some turn → rounds[index]? = some round →
      ∀ assistant : Assistant,
        assistant.Gives (snapshot.after (turns.take index)) round.answers →
        turn.enhancement = (assistant.enhance (snapshot.after (turns.take index))).value ∧
        (turn.asked.filterMap (assistant.questionAt? (snapshot.after (turns.take index)))).Perm
          (assistant.enhance (snapshot.after (turns.take index))).questions) ∧
    (∀ index turn next round again, turns[index]? = some turn → turns[index + 1]? = some next →
      rounds[index]? = some round → rounds[index + 1]? = some again →
      ∀ reply, round.RepliesBy reply (snapshot.after (turns.take index)) →
        again.RepliesBy reply turn.enhancement.snapshot → next.enhancement = turn.enhancement) ∧
    ∀ answers concurrency, ∃ schedule turn,
      snapshot.turns? (rounds ++ [⟨answers, concurrency, schedule⟩]) = some (turns ++ [turn]) := by
  refine ⟨?_, ?_, ?_, ?_, ?_, ?_⟩
  · intro position record found synthesized
    rw [after_eq_heard ran, getElem?_heard_of_synthesized found synthesized]
    constructor
    · intro summary first
      rw [(firstSummary?_eq_some_iff rounds position summary).mpr first, FunctionRecord.given]
    · intro useless
      rw [(firstSummary?_eq_none_iff rounds position).mpr useless, FunctionRecord.given_none]
  · intro index turn found
    obtain ⟨round, -, -, asked, -⟩ := turn_of_turns? ran found
    refine ⟨asked.nodup_iff.mpr ((pendingPositions_pairwise _).imp Nat.ne_of_lt), ?_⟩
    intro position
    rw [asked.mem_iff, mem_pendingPositions, isPending_heard, firstSummary?_eq_none_iff]
  · intro position record found settled turn member
    obtain ⟨index, found'⟩ := List.mem_iff_getElem?.mp member
    obtain ⟨round, -, -, asked, left⟩ := turn_of_turns? ran found'
    refine ⟨?_, ?_⟩
    · rw [left, answered_heard, getElem?_heard_of_not_synthesized found settled]
    · rw [asked.mem_iff, mem_pendingPositions, isPending_heard, isPending_iff found]
      simp [FunctionRecord.isSynthesized, settled]
  · intro index turn round found foundRound assistant gives
    obtain ⟨round', foundRound', before, asked, left⟩ := turn_of_turns? ran found
    cases foundRound.symm.trans foundRound'
    rw [before] at gives ⊢
    constructor
    · rw [left, Assistant.enhance, assistant.enhanceRecords_value _ gives, answered]
    · rw [← assistant.filterMap_questionAt?]
      exact asked.filterMap _
  · intro index turn next round again found foundNext foundRound foundAgain reply first second
    obtain ⟨round', foundRound', before, -, left⟩ := turn_of_turns? ran found
    obtain ⟨again', foundAgain', -, -, leftNext⟩ := turn_of_turns? ran foundNext
    cases foundRound.symm.trans foundRound'
    cases foundAgain.symm.trans foundAgain'
    rw [before] at first
    rw [left] at second
    have middle : snapshot.heard (rounds.take (index + 1)) =
        ((snapshot.heard (rounds.take index)).answered round.answers).snapshot := by
      rw [answered_heard, List.take_add_one, foundRound, Option.toList_some]
    rw [leftNext, left, middle, first.answered_again second]
  · intro answers concurrency
    obtain ⟨schedule, turn, ranRound⟩ :=
      Round.exists_run? (snapshot.after turns) answers concurrency
    exact ⟨schedule, turn, by simp [turns?_append, ran, turns?, ranRound]⟩

/-- An assistant that knows another function, and would say something else about the last. -/
def otherReply (_ code : String) (_ : Language) : Except Failure String :=
  if code = "2" then .ok "Adds one."
  else if code = "3" then .error (.settings "no key")
  else .ok "No."

/-- The answers of that assistant by position. -/
def otherAnswers : Nat → Except Failure String
  | 1 => .ok "Adds one."
  | 2 => .error (.settings "no key")
  | _ => .ok "No."

/-- Three rounds, the last two with one assistant. -/
def threeRounds : List Round :=
  [⟨Assistant.forgetfulAnswers, 2, Assistant.overtaking⟩,
    ⟨otherAnswers, 0, [.enter, .ask 0, .answer 0, .leave, .enter, .ask 0, .answer 0, .leave]⟩,
    ⟨otherAnswers, 7, [.enter, .ask 0, .answer 0, .leave]⟩]

/-- The answers are those of the assistant, whatever was heard before. -/
theorem otherAnswers_repliesBy (rounds : List Round) {round : Round}
    (answers : round.answers = otherAnswers) :
    round.RepliesBy otherReply (Assistant.namesakes.heard rounds) := by
  intro position record found synthesized
  rw [Snapshot.getElem?_heard] at found
  obtain ⟨original, foundOriginal, rfl⟩ := Option.map_eq_some_iff.mp found
  have bound : position < 5 := (List.getElem?_eq_some_iff.mp foundOriginal).1
  have slice (summary : Option String) :
      (original.given summary).sourceSlice = original.sourceSlice := by cases summary <;> rfl
  rw [answers]
  simp only [otherReply, apply_ite FunctionRecord.sourceSlice, slice, ite_self]
  interval_cases position <;> cases foundOriginal <;> decide

/-- Two functions get a summary in different rounds and one never does. Nobody is asked about
again after that, and the third round repeats the second. -/
theorem Snapshot.turns?_threeRounds :
    ∃ turns, Assistant.namesakes.turns? threeRounds = some turns ∧
      turns.map Turn.asked = [[2, 1, 4], [1, 2], [2]] ∧
      (Assistant.namesakes.after turns).functions[0]? =
        some ⟨"f", "Adds.", .docComment, "1", 1, 1⟩ ∧
      (Assistant.namesakes.after turns).functions[1]? =
        some ⟨"f", "Adds one.", .generated, "2", 2, 2⟩ ∧
      (Assistant.namesakes.after turns).functions[2]? =
        some ⟨"g", "Function", .synthesized, "3", 3, 3⟩ ∧
      (Assistant.namesakes.after turns).functions[4]? =
        some ⟨"f", "Counts.", .generated, "5", 5, 5⟩ ∧
      turns[2]?.map Turn.enhancement = turns[1]?.map Turn.enhancement := by
  have asked : (Assistant.namesakes.turns? threeRounds).map (·.map Turn.asked) =
      some [[2, 1, 4], [1, 2], [2]] := by decide +kernel
  obtain ⟨turns, ran, listed⟩ := Option.map_eq_some_iff.mp asked
  obtain ⟨ends, -, settled, -, repeats, -⟩ := turns?_keep_first_summaries _ threeRounds ran
  obtain ⟨first, second, third, rfl⟩ := List.length_eq_three.mp (length_turns? ran)
  refine ⟨_, ran, listed, (settled 0 _ rfl (by decide) third (by simp)).1, ?_, ?_, ?_, ?_⟩
  · exact (ends 1 _ rfl rfl).1 "Adds one."
      ⟨threeRounds.take 1, _, _, rfl, rfl, by decide, by decide⟩
  · exact (ends 2 _ rfl rfl).2 (by decide)
  · exact (ends 4 _ rfl rfl).1 "Counts." ⟨[], _, _, rfl, rfl, by decide, by decide⟩
  · have found : [first, second, third][1]? = some second := rfl
    obtain ⟨round, -, before, -, left⟩ := turn_of_turns? ran found
    refine congrArg some (repeats 1 second third _ _ rfl rfl rfl rfl otherReply ?_ ?_)
    · rw [before]
      exact otherAnswers_repliesBy _ rfl
    · rw [left, answered_heard]
      exact otherAnswers_repliesBy _ rfl

end SourceOutline
