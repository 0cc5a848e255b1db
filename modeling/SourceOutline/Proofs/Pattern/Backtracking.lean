import SourceOutline.Pattern.Search

/-!
# Searches as backtracking

A search keeps all ways of a match at once, in order of preference, and drops a way that repeats
a better one. Here the ways are tried one after the other, each to its end, and the first that
leads to a match counts. The main statement says that both find the same match (`follow_eq`).
-/

namespace SourceOutline.Pattern

/-- What a step leads to: the capture if it ends here, and else what `read` makes of the class and
of the thread behind. -/
def Step.outcome (position : Nat) (capture : Capture) (read : CharClass → Thread → Option Capture)
    (step : Step) : Option Capture :=
  match step.move with
  | .stop => some (capture.note position step.edges)
  | .take cls todo => read cls ⟨todo, capture.note position step.edges⟩

/-- The capture of the first way of a thread that leads to a match. -/
def attempt : List Char → Option Char → Nat → Thread → Option Capture
  | [], before, position, thread =>
    (stepsOfList ⟨before, none⟩ thread.todo).findSome?
      (Step.outcome position thread.capture fun _ _ => none)
  | c :: rest, before, position, thread =>
    (stepsOfList ⟨before, some c⟩ thread.todo).findSome?
      (Step.outcome position thread.capture fun cls next =>
        if cls.holds c then attempt rest (some c) (position + 1) next else none)

/-! ## One position -/

/-- The ways of one thread, tried in order, are those that read a character and then the one that
ends here. -/
theorem findSome?_outcome_eq_cut (thread : Thread) (position : Nat)
    (read : CharClass → Thread → Option Capture) (steps : List Step) :
    steps.findSome? (Step.outcome position thread.capture read) =
      ((thread.cut position steps).1.findSome? fun way => read way.1 way.2).or
        (thread.cut position steps).2 := by
  induction steps with
  | nil => rfl
  | cons step steps ih =>
    obtain ⟨edges, move⟩ := step
    cases move with
    | stop => rfl
    | take cls todo =>
      simp only [Thread.cut, List.findSome?_cons, Step.outcome, ih]
      cases read cls ⟨todo, thread.capture.note position edges⟩ <;> rfl

/-- The ways of all threads, tried in order. -/
theorem findSome?_outcome_eq_branch (site : Site) (position : Nat)
    (read : CharClass → Thread → Option Capture) (threads : List Thread) :
    (threads.findSome? fun thread => (stepsOfList site thread.todo).findSome?
        (Step.outcome position thread.capture read)) =
      ((branch site position threads).1.findSome? fun way => read way.1 way.2).or
        (branch site position threads).2 := by
  induction threads with
  | nil => rfl
  | cons thread threads ih =>
    rw [List.findSome?_cons, findSome?_outcome_eq_cut, branch]
    obtain ⟨ways, found⟩ := thread.cut position (stepsOfList site thread.todo)
    cases found with
    | some capture => cases ways.findSome? fun way => read way.1 way.2 <;> rfl
    | none =>
      rw [ih, Option.or_none]
      dsimp only
      rw [List.findSome?_append]
      cases ways.findSome? fun way => read way.1 way.2 <;> rfl

/-! ## Threads that repeat a better one -/

/-- Whether there is a match depends on what is left to match only. -/
theorem isSome_attempt (text : List Char) (before : Option Char) (position : Nat)
    (todo : List Pattern) (left right : Capture) :
    (attempt text before position ⟨todo, left⟩).isSome =
      (attempt text before position ⟨todo, right⟩).isSome := by
  induction text generalizing before position todo left right with
  | nil =>
    rw [attempt, attempt, List.isSome_findSome?, List.isSome_findSome?]
    congr 1
    funext step
    rw [Step.outcome, Step.outcome]
    cases step.move <;> rfl
  | cons c rest ih =>
    rw [attempt, attempt, List.isSome_findSome?, List.isSome_findSome?]
    congr 1
    funext step
    rw [Step.outcome, Step.outcome]
    cases step.move with
    | stop => rfl
    | take cls next =>
      dsimp only
      split
      · exact ih _ _ _ _ _
      · rfl

/-- What leads nowhere may be left out. -/
theorem findSome?_filter_of_none {α β : Type} (test : α → Bool) (f : α → Option β) (items : List α)
    (dropped : ∀ item, test item = false → f item = none) :
    (items.filter test).findSome? f = items.findSome? f := by
  induction items with
  | nil => rfl
  | cons item items ih =>
    rw [List.filter_cons, List.findSome?_cons]
    cases kept : test item with
    | true => rw [if_pos rfl, List.findSome?_cons, ih]
    | false => rw [if_neg (by simp), ih, dropped item kept]

/-- A thread that repeats a better one leads nowhere new. -/
theorem findSome?_distinct {f : Thread → Option Capture}
    (alike : ∀ todo left right, (f ⟨todo, left⟩).isSome = (f ⟨todo, right⟩).isSome)
    (threads : List Thread) : (distinct threads).findSome? f = threads.findSome? f := by
  induction threads with
  | nil => rfl
  | cons thread threads ih =>
    have cut : distinct (thread :: threads) =
        thread :: (distinct threads).filter (·.todo != thread.todo) := rfl
    rw [cut, List.findSome?_cons, List.findSome?_cons]
    cases first : f thread with
    | some capture => rfl
    | none =>
      dsimp only
      rw [findSome?_filter_of_none, ih]
      intro other same
      have equal : other.todo = thread.todo := by simpa using same
      have nowhere := alike thread.todo other.capture thread.capture
      rw [first, ← equal] at nowhere
      simpa using nowhere

/-! ## Searches -/

/-- Reading on with all threads at once finds what trying them in order finds. -/
theorem follow_eq (before : Option Char) (position : Nat) (threads : List Thread)
    (best : Option Capture) (text : List Char) :
    follow before position threads best text =
      (threads.findSome? (attempt text before position)).or best := by
  induction text generalizing before position threads best with
  | nil =>
    have tried := findSome?_outcome_eq_branch ⟨before, none⟩ position (fun _ _ => none) threads
    rw [follow]
    change _ = (threads.findSome? fun thread => _).or best
    simp only [attempt, tried]
    rw [List.findSome?_eq_none_iff.mpr (fun _ _ => rfl), Option.none_or]
  | cons c rest ih =>
    have tried := findSome?_outcome_eq_branch ⟨before, some c⟩ position (fun cls next =>
      if cls.holds c then attempt rest (some c) (position + 1) next else none) threads
    rw [follow]
    change _ = (threads.findSome? fun thread => _).or best
    simp only [attempt, tried]
    generalize branch ⟨before, some c⟩ position threads = reached
    obtain ⟨ways, found⟩ := reached
    dsimp only
    let later := distinct (ways.filterMap fun way =>
      if way.1.holds c then some way.2 else none)
    have next : (ways.findSome? fun way =>
        if way.1.holds c then attempt rest (some c) (position + 1) way.2 else none) =
        later.findSome? (attempt rest (some c) (position + 1)) := by
      rw [findSome?_distinct (isSome_attempt rest (some c) (position + 1)),
        ← List.head?_filterMap, ← List.head?_filterMap, List.filterMap_filterMap]
      congr 2
      funext way
      split <;> rfl
    rw [next, Option.or_assoc]
    split
    · next none =>
      have empty : later = [] := List.isEmpty_iff.mp none
      rw [empty]
      rfl
    · exact ih _ _ _ _

/-- The match that starts here is found by trying the ways of the pattern. -/
theorem matchHere_eq (pattern : Pattern) (before : Option Char) (position : Nat)
    (text : List Char) :
    matchHere pattern before position text = attempt text before position ⟨[pattern], {}⟩ := by
  rw [matchHere, follow_eq, Option.or_none, List.findSome?_cons, List.findSome?_nil]
  cases attempt text before position ⟨[pattern], {}⟩ <;> rfl

/-! ## Where names stand -/

/-- No edge of the name lies behind the position. -/
structure Capture.Within (capture : Capture) (limit : Nat) : Prop where
  first : ∀ position ∈ capture.first, position ≤ limit
  last : ∀ position ∈ capture.last, position ≤ limit

/-- Edges noted at a position lie at it. -/
theorem Capture.Within.note {capture : Capture} {limit position : Nat}
    (within : capture.Within limit) (inside : position ≤ limit) (edges : List Edge) :
    (capture.note position edges).Within limit := by
  induction edges generalizing capture with
  | nil => exact within
  | cons edge edges ih =>
    cases edge with
    | first =>
      have noted : Within { capture with first := some position } limit :=
        ⟨fun place here => Option.some.inj here ▸ inside, within.last⟩
      exact ih noted
    | last =>
      have noted : Within { capture with last := some position } limit :=
        ⟨within.first, fun place here => Option.some.inj here ▸ inside⟩
      exact ih noted

/-- A match notes edges in the text only. -/
theorem within_of_attempt {text : List Char} {before : Option Char} {position : Nat}
    {thread : Thread} {capture : Capture}
    (found : attempt text before position thread = some capture)
    (within : thread.capture.Within (position + text.length)) :
    capture.Within (position + text.length) := by
  induction text generalizing before position thread with
  | nil =>
    rw [attempt] at found
    obtain ⟨step, _, ends⟩ := List.exists_of_findSome?_eq_some found
    rw [Step.outcome] at ends
    split at ends
    · rw [← Option.some.inj ends]
      exact within.note (Nat.le_add_right _ _) _
    · contradiction
  | cons c rest ih =>
    rw [attempt] at found
    obtain ⟨step, _, ends⟩ := List.exists_of_findSome?_eq_some found
    have noted := within.note (Nat.le_add_right position _) step.edges
    rw [Step.outcome] at ends
    rw [List.length_cons, ← Nat.add_assoc, Nat.add_right_comm] at noted ⊢
    split at ends
    · rw [← Option.some.inj ends]
      exact noted
    · split at ends
      · exact ih ends noted
      · contradiction

/-- A search reports a name that stands in the text. -/
theorem within_of_search {pattern : Pattern} {text : List Char} {capture : Capture}
    (found : search pattern text = some capture) : capture.Within text.length := by
  have here {before : Option Char} {position : Nat} {rest : List Char}
      (found : matchHere pattern before position rest = some capture) :
      capture.Within (position + rest.length) := by
    rw [matchHere_eq] at found
    exact within_of_attempt found ⟨nofun, nofun⟩
  have later (before : Option Char) (position : Nat) (rest : List Char)
      (found : searchFrom pattern before position rest = some capture) :
      capture.Within (position + rest.length) := by
    induction rest generalizing before position with
    | nil => exact here found
    | cons c rest ih =>
      rw [searchFrom] at found
      split at found
      · next first => exact here (first.trans found)
      · rw [List.length_cons, ← Nat.add_assoc, Nat.add_right_comm]
        exact ih _ _ found
  rw [search] at found
  rw [← Nat.zero_add text.length]
  split at found
  · exact here found
  · exact later none 0 text found

end SourceOutline.Pattern
