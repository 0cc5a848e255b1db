import Mathlib
import SourceOutline.Grammar.Reader
import SourceOutline.Proofs.Grammar.Layout
import SourceOutline.Proofs.Grammar.Rows

/-!
# What a reader reads

A reader takes a part of the source and leaves the cursor behind it. The rows of what it gives
lie between the two places, in source order, and no row is counted that the source does not
have. Readers that are put together from such readers are such readers.
-/

namespace SourceOutline.Grammar

open Std.Do

set_option mvcgen.warning false

/-- From one place to another, over these rows. -/
structure Step (before : Cursor) (rows : List Nat) (after : Cursor) : Prop where
  /-- The rows ascend from the one place to the other. -/
  ascend : Ascend before.row rows after.row
  /-- No more rows are counted than there are. -/
  counted : after.row + rowsIn after.rest ≤ before.row + rowsIn before.rest

namespace Step

variable {before middle after : Cursor} {rows front back : List Nat}

/-- Without moving. -/
@[grind .]
theorem refl (cursor : Cursor) : Step cursor [] cursor := ⟨.nil (Nat.le_refl _), Nat.le_refl _⟩

/-- One step behind the other. -/
theorem append (first : Step before front middle) (second : Step middle back after) :
    Step before (front ++ back) after :=
  ⟨first.ascend.append second.ascend, Nat.le_trans second.counted first.counted⟩

grind_pattern Step.append => Step before front middle, Step before (front ++ back) after

/-- Over some of the rows. -/
theorem sublist (step : Step before rows after) (part : front.Sublist rows) :
    Step before front after :=
  ⟨step.ascend.sublist part, step.counted⟩

/-- Over rows that are not kept. -/
theorem pass (step : Step before rows after) : Step before [] after :=
  step.sublist (List.nil_sublist rows)

/-- Behind rows that are not kept. -/
@[grind →]
theorem behind (first : Step before [] middle) (second : Step middle rows after) :
    Step before rows after :=
  first.append second

/-- In front of rows that are not kept. -/
@[grind →]
theorem ahead (first : Step before rows middle) (second : Step middle [] after) :
    Step before rows after :=
  List.append_nil rows ▸ first.append second

/-- Over no row that is kept. -/
theorem of_further (further : Further before.row before.rest after.row after.rest) :
    Step before [] after :=
  ⟨.nil further.forward, further.counted⟩

/-- To the first token of a text further on, over the row on which the text goes on. -/
theorem next (expect : Expect) (layout : Layout) {rest : List Char} {row : Nat}
    (further : Further before.row before.rest row rest) :
    Step before [(Grammar.next expect layout rest row {}).gap.continued.getD row]
      (.ofLocated (Grammar.next expect layout rest row {})) := by
  obtain ⟨above, below⟩ := next_mark expect layout rest row
  exact ⟨.append (.nil (Nat.le_trans further.forward above)) ((Ascend.single _).later below),
    (further.trans (next_further expect layout rest row {})).counted⟩

/-- The row of the first place comes before all others. -/
theorem cons_row (step : Step before rows after) : Step before (before.row :: rows) after :=
  ⟨(Ascend.single before.row).append step.ascend, step.counted⟩

end Step

namespace Reader

/-- The reader stands at a place. -/
abbrev At (before : Cursor) : Assertion (.arg Cursor (.except (Option Nat) .pure)) :=
  fun cursor => ⌜cursor = before⌝

/-- What is read from a place on has these rows, unless it cannot be read. -/
abbrev Reads {α : Type} (before : Cursor) (rows : α → List Nat) :
    PostCond α (.arg Cursor (.except (Option Nat) .pure)) :=
  ⇓? result after => ⌜Step before (rows result) after⌝

attribute [spec] peek atMark atWord atMarks atWords

/-- A failure meets what is asked of failures, and nothing else. -/
@[spec]
theorem fail_spec {α : Type} (post : PostCond α (.arg Cursor (.except (Option Nat) .pure))) :
    ⦃fun _ => post.2.1 none⦄ (fail : Reader α) ⦃post⦄ := by
  intro cursor failed
  exact failed

/-- What holds behind a reader holds of the result and place that it gives, or of its failure. -/
theorem wp_apply {α : Type} (reader : Reader α)
    (post : PostCond α (.arg Cursor (.except (Option Nat) .pure))) (before : Cursor) :
    wp⟦reader⟧ post before =
      match reader before with
      | .ok (result, after) => post.1 result after
      | .error failure => post.2.1 failure := by
  change wp⟦reader before⟧ (fun found => post.1 found.1 found.2, post.2) = _
  cases reader before <;> rfl

/-- What is read is said of every result that the reader gives. -/
theorem reads_iff {α : Type} {reader : Reader α} {rows : α → List Nat} {start before : Cursor} :
    (⦃At before⦄ reader ⦃Reads start rows⦄) ↔
      ∀ result after, reader before = .ok (result, after) → Step start (rows result) after := by
  constructor
  · intro reads result after done
    have holds := reads before rfl
    rw [wp_apply, done] at holds
    exact holds
  · rintro ends cursor rfl
    rw [wp_apply]
    split
    · next result after done => exact ends result after done
    · trivial

/-- A reader that fails reads nothing wrong. -/
theorem fail_reads {α : Type} {rows : α → List Nat} (before : Cursor) :
    ⦃At before⦄ (fail : Reader α) ⦃Reads before rows⦄ := by
  mvcgen

/-- What is read further on is read from an earlier place on too. -/
theorem reads_behind {α : Type} {reader : Reader α} {rows : α → List Nat} {start before : Cursor}
    (first : Step start [] before) (reads : ⦃At before⦄ reader ⦃Reads before rows⦄) :
    ⦃At before⦄ reader ⦃Reads start rows⦄ := by
  rw [reads_iff] at *
  exact fun result after done => first.behind (reads result after done)

/-- Tokens go on at a row further on, or where its line is continued. -/
@[spec]
theorem resume_reads (expect : Expect) {rest : List Char} {row : Nat} {before : Cursor}
    (further : Further before.row before.rest row rest) :
    ⦃At before⦄ resume expect rest row ⦃Reads before fun mark => [mark]⦄ := by
  mvcgen [resume]
  exact Step.next expect _ further

/-- A token is one row, and the next one stands further on. -/
@[spec]
theorem take_reads (expect : Expect) (before : Cursor) :
    ⦃At before⦄ take expect ⦃Reads before Tree.rows⦄ := by
  mvcgen [take]
  · subst_vars
    exact .refl _ _
  · simp_all

/-- An operator, separator or bracket stands where the reader is. -/
@[spec]
theorem takeMark_reads (text : String) (expect : Expect) (before : Cursor) :
    ⦃At before⦄ takeMark text expect ⦃Reads before Tree.rows⦄ := by
  mvcgen [takeMark]

/-- A word stands where the reader is. -/
@[spec]
theorem takeWord_reads (text : String) (expect : Expect) (before : Cursor) :
    ⦃At before⦄ takeWord text expect ⦃Reads before Tree.rows⦄ := by
  mvcgen [takeWord]

/-- A token stands where the reader is. -/
@[spec]
theorem takeToken_reads (token : Token) (expect : Expect) (before : Cursor) :
    ⦃At before⦄ takeToken token expect ⦃Reads before Tree.rows⦄ := by
  mvcgen [takeToken]

/-- The end of a line or block leaves the row on which a line goes on behind it, if one does. -/
@[spec]
theorem takeEnd_reads (token : Token) (expect : Expect) (before : Cursor) :
    ⦃At before⦄ takeEnd token expect ⦃Reads before rowsOfTrees⦄ := by
  mvcgen [takeEnd, takeToken, take, resume]
  next cursor same _ located =>
  subst same
  refine (Step.next expect cursor.layout (.refl _ _)).sublist ?_
  change (rowsOfTrees (located.gap.continued.toList.map Tree.token)).Sublist
    [located.gap.continued.getD cursor.row]
  cases located.gap.continued <;> simp

/-- A name stands where the reader is. -/
@[spec]
theorem takeName_reads (expect : Expect) (before : Cursor) :
    ⦃At before⦄ takeName expect ⦃Reads before (·.2.rows)⦄ := by
  mvcgen [takeName]
  all_goals simp_all

/-- A reader that is repeated reads the rows of all that it gives. -/
theorem many_reads {α : Type} {step : Reader (Option α)} {rows : α → List Nat}
    (reads : ∀ before, ⦃At before⦄ step ⦃Reads before fun found => found.elim [] rows⦄)
    (fuel : Nat) (before : Cursor) :
    ⦃At before⦄ many step fuel ⦃Reads before fun found => found.flatMap rows⦄ := by
  induction fuel generalizing before with
  | zero => mvcgen [many]
  | succ fuel ih =>
    mvcgen [many, reads, ih]
    all_goals simp_all
    all_goals grind

/-- Both readers start at the same place, so either result stands in order. -/
@[spec]
theorem either_reads {α : Type} {first second : Reader α} {rows : α → List Nat} (before : Cursor)
    (first_reads : ⦃At before⦄ first ⦃Reads before rows⦄)
    (second_reads : ⦃At before⦄ second ⦃Reads before rows⦄) :
    ⦃At before⦄ either first second ⦃Reads before rows⦄ := by
  rw [reads_iff] at *
  intro result after done
  rw [either] at done
  split at done
  · next found => exact first_reads _ _ (found.trans done)
  · exact second_reads _ _ done

/-- Telling where a failure stands changes nothing about what is read. -/
theorem located_reads {α : Type} {reader : Reader α} {rows : α → List Nat} (before : Cursor)
    (reads : ⦃At before⦄ reader ⦃Reads before rows⦄) :
    ⦃At before⦄ located reader ⦃Reads before rows⦄ := by
  rw [reads_iff] at *
  intro result after done
  rw [located] at done
  split at done
  · contradiction
  · exact reads _ _ done

end Reader

end SourceOutline.Grammar
