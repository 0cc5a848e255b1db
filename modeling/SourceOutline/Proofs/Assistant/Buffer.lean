import Mathlib.Algebra.GroupWithZero.Nat
import Mathlib.Data.List.Perm.Subperm
import SourceOutline.Failure

/-!
# Questions that wait for their answers together

Questions about functions are put through a buffer that lets a limited number of them wait for
an answer at a time. A function enters the buffer in its turn, its question is put at any time
after that, its answer comes at any time after that, and it leaves at the front only. A
schedule says which of these happens next, so a run over every schedule is a run over every
order in which questions are put and answers come.

Every step keeps `Buffer.Sound`. So a finished run has put one question for each function and
holds the answers in the order of the functions (`Sound.finished`), whatever the schedule and
the limit were, and every run can be brought to its end (`Sound.finishes`).
-/

namespace SourceOutline

/-- A function in the buffer, by its position. -/
inductive Buffer.Slot where
  /-- Its question is not put yet. -/
  | idle (position : Nat)
  /-- Its question is put. -/
  | asked (position : Nat)
  /-- Its answer is here. -/
  | answered (position : Nat) (answer : Except Failure String)

/-- What happens next in a buffer. -/
inductive Buffer.Event where
  /-- The next function enters. -/
  | enter
  /-- The question of a slot is put. -/
  | ask (slot : Nat)
  /-- The question of a slot is answered. -/
  | answer (slot : Nat)
  /-- The function at the front leaves with its answer. -/
  | leave

/-- Functions on their way through the buffer. -/
structure Buffer where
  /-- The positions that have not entered. -/
  waiting : List Nat
  /-- The slots, the first that entered at the front. -/
  window : List Buffer.Slot
  /-- The positions that a question was put for, in the order of the questions. -/
  asked : List Nat
  /-- The positions that have left, with their answers. -/
  outcomes : List (Nat × Except Failure String)

namespace Buffer

/-- The position of the function in a slot. -/
@[simp] def Slot.position : Slot → Nat
  | idle position => position
  | asked position => position
  | answered position _ => position

/-- The question of the slot was put. -/
@[simp] def Slot.isAsked : Slot → Bool
  | idle _ => false
  | _ => true

/-- How many events the function in a slot has ahead of it. -/
@[simp] def Slot.remaining : Slot → Nat
  | idle _ => 3
  | asked _ => 2
  | answered _ _ => 1

/-- The slot holds no answer but that for its function. -/
@[simp] def Slot.Holds (answers : Nat → Except Failure String) : Slot → Prop
  | answered position answer => answer = answers position
  | _ => True

/-- The buffer before the first event. -/
def start (positions : List Nat) : Buffer := ⟨positions, [], [], []⟩

/-- Every function has left. -/
def isFinished (buffer : Buffer) : Bool := buffer.waiting.isEmpty && buffer.window.isEmpty

/-- How many events there are until every function has left. -/
def remaining (buffer : Buffer) : Nat :=
  4 * buffer.waiting.length + (buffer.window.map Slot.remaining).sum

/-- The buffer after an event, unless the event cannot happen. -/
def step? (limit : Nat) (answers : Nat → Except Failure String) (buffer : Buffer) :
    Event → Option Buffer
  | .enter =>
    match buffer.waiting with
    | position :: waiting =>
      if buffer.window.length < limit then
        some { buffer with waiting := waiting, window := buffer.window ++ [.idle position] }
      else none
    | [] => none
  | .ask slot =>
    match buffer.window[slot]? with
    | some (.idle position) =>
      some { buffer with
        window := buffer.window.set slot (.asked position)
        asked := buffer.asked ++ [position] }
    | _ => none
  | .answer slot =>
    match buffer.window[slot]? with
    | some (.asked position) =>
      some { buffer with window := buffer.window.set slot (.answered position (answers position)) }
    | _ => none
  | .leave =>
    match buffer.window with
    | .answered position answer :: window =>
      some { buffer with window := window, outcomes := buffer.outcomes ++ [(position, answer)] }
    | _ => none

/-- The buffer after the events of a schedule, unless one of them cannot happen. -/
def run? (limit : Nat) (answers : Nat → Except Failure String) :
    Buffer → List Event → Option Buffer
  | buffer, [] => some buffer
  | buffer, event :: schedule =>
    (buffer.step? limit answers event).bind fun next => next.run? limit answers schedule

/-! ## What one event does -/

/-- One event leads from a buffer to another, with the slot it changes singled out. -/
inductive Moves (limit : Nat) (answers : Nat → Except Failure String) : Buffer → Buffer → Prop where
  | enter {position waiting window asked outcomes} (space : window.length < limit) :
    Moves limit answers ⟨position :: waiting, window, asked, outcomes⟩
      ⟨waiting, window ++ [.idle position], asked, outcomes⟩
  | ask {position waiting front back asked outcomes} :
    Moves limit answers ⟨waiting, front ++ .idle position :: back, asked, outcomes⟩
      ⟨waiting, front ++ .asked position :: back, asked ++ [position], outcomes⟩
  | answer {position waiting front back asked outcomes} :
    Moves limit answers ⟨waiting, front ++ .asked position :: back, asked, outcomes⟩
      ⟨waiting, front ++ .answered position (answers position) :: back, asked, outcomes⟩
  | leave {position answer waiting window asked outcomes} :
    Moves limit answers ⟨waiting, .answered position answer :: window, asked, outcomes⟩
      ⟨waiting, window, asked, outcomes ++ [(position, answer)]⟩

/-- A list around one of its places, with another value put there. -/
theorem set_of_getElem? {α : Type} {items : List α} {index : Nat} {item : α}
    (found : items[index]? = some item) (other : α) :
    ∃ front back, items = front ++ item :: back ∧
      items.set index other = front ++ other :: back := by
  obtain ⟨bound, rfl⟩ := List.getElem?_eq_some_iff.mp found
  refine ⟨items.take index, items.drop (index + 1), ?_, ?_⟩
  · rw [← List.drop_eq_getElem_cons bound, List.take_append_drop]
  · exact List.set_eq_take_append_cons_drop.trans (if_pos bound)

variable {limit : Nat} {answers : Nat → Except Failure String} {positions : List Nat}
  {buffer next : Buffer}

/-- An event that can happen is one of the four moves. -/
theorem moves_of_step? {event : Event} (stepped : buffer.step? limit answers event = some next) :
    Moves limit answers buffer next := by
  obtain ⟨waiting, window, asked, outcomes⟩ := buffer
  cases event with
  | enter =>
    cases waiting with
    | nil => simp [step?] at stepped
    | cons position waiting =>
      simp only [step?, Option.ite_none_right_eq_some, Option.some.injEq] at stepped
      obtain ⟨space, rfl⟩ := stepped
      exact .enter space
  | ask slot =>
    simp only [step?] at stepped
    split at stepped
    · next position found =>
      obtain ⟨front, back, rfl, changed⟩ := set_of_getElem? found (.asked position)
      rw [Option.some.injEq, changed] at stepped
      exact stepped ▸ .ask
    · contradiction
  | answer slot =>
    simp only [step?] at stepped
    split at stepped
    · next position found =>
      obtain ⟨front, back, rfl, changed⟩ :=
        set_of_getElem? found (.answered position (answers position))
      rw [Option.some.injEq, changed] at stepped
      exact stepped ▸ .answer
    · contradiction
  | leave =>
    simp only [step?] at stepped
    split at stepped
    · next window =>
      cases stepped
      exact .leave
    · contradiction

/-- Every event brings the end nearer by one. -/
theorem Moves.remaining (moves : Moves limit answers buffer next) :
    next.remaining + 1 = buffer.remaining := by
  cases moves <;> simp [Buffer.remaining] <;> omega

/-! ## What every run keeps -/

/-- The functions are on their way in the order of their positions, each asked about at most
once and with its own answer. -/
structure Sound (limit : Nat) (answers : Nat → Except Failure String) (positions : List Nat)
    (buffer : Buffer) : Prop where
  /-- Nobody overtakes. -/
  order : buffer.outcomes.map Prod.fst ++ (buffer.window.map Slot.position ++ buffer.waiting) =
    positions
  /-- Whoever left has left with the answer for it. -/
  given : ∀ outcome ∈ buffer.outcomes, outcome.2 = answers outcome.1
  /-- An answer in the window is that for its function. -/
  held : ∀ slot ∈ buffer.window, slot.Holds answers
  /-- Questions were put for those that have left and for slots beyond idle. -/
  asked : buffer.asked.Perm
    (buffer.outcomes.map Prod.fst ++ (buffer.window.filter Slot.isAsked).map Slot.position)
  /-- No more than the limit wait together. -/
  bounded : buffer.window.length ≤ limit

/-- Nothing has happened at the start. -/
theorem sound_start (limit : Nat) (answers : Nat → Except Failure String) (positions : List Nat) :
    Sound limit answers positions (start positions) where
  order := rfl
  given := by simp [start]
  held := by simp [start]
  asked := by simp [start]
  bounded := Nat.zero_le limit

/-- Every event keeps the buffer sound. -/
theorem Sound.move (sound : Sound limit answers positions buffer)
    (moves : Moves limit answers buffer next) : Sound limit answers positions next := by
  obtain ⟨order, given, held, asked, bounded⟩ := sound
  cases moves with
  | enter space =>
    exact ⟨by simpa using order, given, by simpa [or_imp, forall_and] using held,
      by simpa using asked, by simpa using Nat.succ_le_of_lt space⟩
  | ask =>
    refine ⟨by simpa using order, given, by simpa [or_imp, forall_and] using held, ?_,
      by simpa using bounded⟩
    -- The question goes to the end of those put, and its slot stands anywhere in the window.
    simp only [List.filter_append, List.filter_cons, Slot.isAsked, List.map_append, if_true,
      Bool.false_eq_true, if_false, List.map_cons, Slot.position] at asked ⊢
    rw [← List.append_assoc] at asked ⊢
    exact (asked.append_right _).trans
      ((List.perm_append_singleton _ _).trans List.perm_middle.symm)
  | answer =>
    exact ⟨by simpa using order, given, by simpa [or_imp, forall_and] using held,
      by simpa [List.filter_append, List.filter_cons] using asked, by simpa using bounded⟩
  | leave =>
    simp only [List.mem_cons, forall_eq_or_imp, Slot.Holds] at held
    refine ⟨by simpa using order, ?_, held.2, by simpa [List.filter_cons] using asked,
      Nat.le_of_succ_le bounded⟩
    simpa [or_imp, forall_and, held.1] using given

/-- Every run keeps the buffer sound and takes as many events as it brings the end nearer. -/
theorem Sound.run (sound : Sound limit answers positions buffer) {schedule : List Event}
    (ran : buffer.run? limit answers schedule = some next) :
    Sound limit answers positions next ∧ schedule.length + next.remaining = buffer.remaining := by
  induction schedule generalizing buffer with
  | nil => cases ran; exact ⟨sound, Nat.zero_add _⟩
  | cons event schedule induction =>
    obtain ⟨middle, stepped, rest⟩ := Option.bind_eq_some_iff.mp ran
    have moves := moves_of_step? stepped
    obtain ⟨kept, length⟩ := induction (sound.move moves) rest
    refine ⟨kept, ?_⟩
    rw [← moves.remaining, ← length, List.length_cons]
    omega

/-- No function is asked about twice, and none that was not to be. -/
theorem Sound.asked_subperm (sound : Sound limit answers positions buffer) :
    buffer.asked.Subperm positions := by
  rw [← sound.order, ← List.append_assoc]
  refine (sound.asked.subperm).trans (List.Sublist.subperm ?_)
  refine (List.Sublist.append_left ?_ _).trans (List.sublist_append_left _ _)
  exact List.filter_sublist.map Slot.position

/-- A finished run has asked about every function and holds the answers in their order. -/
theorem Sound.finished (sound : Sound limit answers positions buffer)
    (finished : buffer.isFinished) :
    buffer.asked.Perm positions ∧
      buffer.outcomes = positions.map fun position => (position, answers position) := by
  obtain ⟨waiting, window, asked, outcomes⟩ := buffer
  simp only [isFinished, Bool.and_eq_true, List.isEmpty_iff] at finished
  obtain ⟨rfl, rfl⟩ := finished
  have order : outcomes.map Prod.fst = positions := by simpa using sound.order
  constructor
  · simpa [order] using sound.asked
  · rw [← order, List.map_map]
    refine (List.map_id outcomes).symm.trans (List.map_congr_left fun outcome member => ?_)
    exact Prod.ext rfl (sound.given outcome member)

/-! ## Every run can be brought to its end -/

/-- Something can happen in a buffer that is not finished. -/
theorem Sound.exists_step (sound : Sound limit answers positions buffer) (space : 0 < limit)
    (unfinished : ¬ buffer.isFinished) :
    ∃ event next, buffer.step? limit answers event = some next := by
  obtain ⟨waiting, window, asked, outcomes⟩ := buffer
  cases window with
  | nil =>
    cases waiting with
    | nil => exact absurd rfl unfinished
    | cons position waiting => exact ⟨.enter, _, if_pos space⟩
  | cons slot window =>
    cases slot with
    | idle position => exact ⟨.ask 0, _, rfl⟩
    | asked position => exact ⟨.answer 0, _, rfl⟩
    | answered position answer => exact ⟨.leave, _, rfl⟩

/-- Every run can be continued until each function has left. -/
theorem Sound.finishes (sound : Sound limit answers positions buffer) (space : 0 < limit) :
    ∃ schedule last, buffer.run? limit answers schedule = some last ∧ last.isFinished := by
  induction left : buffer.remaining generalizing buffer with
  | zero =>
    refine ⟨[], buffer, rfl, ?_⟩
    by_contra unfinished
    obtain ⟨event, next, stepped⟩ := sound.exists_step space unfinished
    have := (moves_of_step? stepped).remaining
    omega
  | succ left induction =>
    by_cases finished : buffer.isFinished
    · exact ⟨[], buffer, rfl, finished⟩
    obtain ⟨event, next, stepped⟩ := sound.exists_step space finished
    have moves := moves_of_step? stepped
    have nearer := moves.remaining
    obtain ⟨schedule, last, ran, finished⟩ := induction (sound.move moves) (by omega)
    exact ⟨event :: schedule, last, by simp [run?, stepped, ran], finished⟩

end Buffer

end SourceOutline
