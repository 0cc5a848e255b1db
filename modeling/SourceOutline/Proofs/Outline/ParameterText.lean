import Mathlib.Data.List.Infix
import Mathlib.Data.List.TakeWhile
import Mathlib.Order.WellFounded
import SourceOutline.Outline.Parameters

/-!
# Where parameter lists end

The text of a parameter list is looked for line by line, and its parts are cut from the joined text.
Both read string literals with the same states, and both are compared here with a plain reading of
the joined text. The search does not read the line feeds between lines. So a backslash in front of
one escapes the first character of the next line, where the plain reading escapes the line feed.
The main statement says what the search finds in every text, that it finds what the plain reading
finds where no line feed changes the state of a literal, and that the two disagree where one does.
-/

namespace SourceOutline.Outline

open Text

/-! ## States of a reading -/

/-- The state of a plain reading behind one more character. -/
def StringState.next (quotes : List Char) : StringState → Char → StringState
  | .outside, c => if c ∈ quotes then .inside c else .outside
  | .inside quote, c => .insideAfter quote c
  | .escaped quote, _ => .inside quote

/-- The state of a search that does not read line feeds. -/
def StringState.nextInLine (quotes : List Char) (state : StringState) (c : Char) : StringState :=
  if c = '\n' then state else state.next quotes c

/-- A character read in this state stands outside of literals and opens none. -/
def IsBare (quotes : List Char) (state : StringState) (c : Char) : Prop :=
  state = .outside ∧ c ∉ quotes

/-- Whether a character is bare can be tested. -/
instance (quotes : List Char) (state : StringState) (c : Char) :
    Decidable (IsBare quotes state c) :=
  inferInstanceAs (Decidable (_ ∧ _))

/-- How many parentheses are open behind one more character. -/
def depthBehind (quotes : List Char) (depth : Nat) (state : StringState) (c : Char) : Nat :=
  if IsBare quotes state c ∧ c = '(' then depth + 1
  else if IsBare quotes state c ∧ c = ')' then depth - 1
  else depth

/-- The search ends at a bare parenthesis that closes the last open one, and goes on behind any
other character. -/
theorem closedList?_cons_eq (quotes : List Char) (depth : Nat) (state : StringState) (c : Char)
    (rest : List Char) :
    closedList? quotes depth state (c :: rest) =
      if IsBare quotes state c ∧ c = ')' ∧ depth ≤ 1 then some []
      else (closedList? quotes (depthBehind quotes depth state c) (state.nextInLine quotes c)
        rest).map (c :: ·) := by
  by_cases feed : c = '\n'
  · simp [closedList?, feed, depthBehind, StringState.nextInLine]
  · cases state with
    | inside quote =>
      simp [closedList?, feed, depthBehind, StringState.nextInLine, StringState.next, IsBare]
    | escaped quote =>
      simp [closedList?, feed, depthBehind, StringState.nextInLine, StringState.next, IsBare]
    | outside =>
      simp only [closedList?, feed, if_false, depthBehind, StringState.nextInLine,
        StringState.next, IsBare, List.contains_iff_mem, true_and]
      by_cases quote : c ∈ quotes
      · simp [quote]
      · by_cases opens : c = '('
        · subst opens
          simp [quote]
        · by_cases closes : c = ')'
          · subst closes
            simp [quote]
          · simp [quote, opens, closes]

/-! ## Closing parentheses -/

section Reading

variable (next : StringState → Char → StringState) (quotes : List Char)

/-- The characters outside of literals that a reading from this state passes. -/
def bareText : StringState → List Char → List Char
  | _, [] => []
  | state, c :: rest =>
    (if IsBare quotes state c then [c] else []) ++ bareText (next state c) rest

/-- Behind `front` the text has a bare parenthesis that closes the last open one, when `depth` of
them are open before the text. -/
structure Closes (depth : Nat) (state : StringState) (text front : List Char) : Prop where
  /-- A closing parenthesis follows. -/
  follows : front ++ [')'] <+: text
  /-- It stands outside of literals. -/
  bare : IsBare quotes (front.foldl next state) ')'
  /-- With it as many are closed as were opened. -/
  balanced : (bareText next quotes state front).count ')' + 1 =
    (bareText next quotes state front).count '(' + depth

end Reading

/-- No shorter text passes the test. -/
def IsShortest (test : List Char → Prop) (text : List Char) : Prop :=
  test text ∧ ∀ other, test other → text.length ≤ other.length

/-- If a text passes the test, then there is a shortest one. -/
theorem exists_isShortest {test : List Char → Prop} {text : List Char} (passes : test text) :
    ∃ shortest, IsShortest test shortest ∧ shortest.length ≤ text.length := by
  obtain ⟨shortest, first, least⟩ :=
    (measure List.length).wf.has_min {other | test other} ⟨text, passes⟩
  have minimal : ∀ other, test other → shortest.length ≤ other.length := fun other also =>
    Nat.le_of_not_lt (least other also)
  exact ⟨shortest, ⟨first, minimal⟩, minimal text passes⟩

section Reading

variable {next : StringState → Char → StringState} {quotes : List Char}

/-- Whether parentheses balance behind a character depends on how many are open behind it. -/
theorem balanced_cons_iff {depth : Nat} (opened : 0 < depth) (state : StringState) (c : Char)
    (inner : List Char) :
    (bareText next quotes state (c :: inner)).count ')' + 1 =
        (bareText next quotes state (c :: inner)).count '(' + depth ↔
      (bareText next quotes (next state c) inner).count ')' + 1 =
        (bareText next quotes (next state c) inner).count '(' +
          depthBehind quotes depth state c := by
  rw [bareText, List.count_append, List.count_append, depthBehind]
  by_cases bare : IsBare quotes state c
  · by_cases opens : c = '('
    · subst opens
      simp [bare]
      omega
    · by_cases closes : c = ')'
      · subst closes
        simp [bare]
        omega
      · simp [bare, opens, closes]
  · simp [bare]

/-- A text is closed at its first character or behind it. -/
theorem closes_cons_iff {depth : Nat} (opened : 0 < depth) (state : StringState) (c : Char)
    (rest front : List Char) :
    Closes next quotes depth state (c :: rest) front ↔
      (front = [] ∧ IsBare quotes state c ∧ c = ')' ∧ depth = 1) ∨
      ∃ inner, front = c :: inner ∧
        Closes next quotes (depthBehind quotes depth state c) (next state c) rest inner := by
  have balance := @balanced_cons_iff next quotes depth opened state c
  cases front with
  | nil =>
    constructor
    · rintro ⟨⟨_, follows⟩, bare, balanced⟩
      obtain rfl := (List.cons.inj follows).1
      exact Or.inl ⟨rfl, bare, rfl, by simpa [bareText] using balanced.symm⟩
    · rintro (⟨_, bare, rfl, rfl⟩ | ⟨_, impossible, _⟩)
      · exact ⟨⟨rest, rfl⟩, bare, rfl⟩
      · contradiction
  | cons d inner =>
    constructor
    · rintro ⟨follows, bare, balanced⟩
      obtain ⟨rfl, within⟩ := List.cons_prefix_cons.mp follows
      exact Or.inr ⟨inner, rfl, within, bare, (balance inner).mp balanced⟩
    · rintro (⟨impossible, _⟩ | ⟨_, same, follows, bare, balanced⟩)
      · contradiction
      · obtain ⟨rfl, rfl⟩ := List.cons.inj same
        exact ⟨List.cons_prefix_cons.mpr ⟨rfl, follows⟩, bare, (balance inner).mpr balanced⟩

end Reading

/-- The search finds the shortest text behind which a parenthesis closes the list. -/
theorem closedList?_eq_some_iff {quotes : List Char} {depth : Nat} (opened : 0 < depth)
    (state : StringState) (text raw : List Char) :
    closedList? quotes depth state text = some raw ↔
      IsShortest (Closes (StringState.nextInLine quotes) quotes depth state text) raw := by
  induction text generalizing depth state raw with
  | nil =>
    constructor
    · nofun
    · rintro ⟨⟨follows, _⟩, _⟩
      simp at follows
  | cons c rest ih =>
    rw [closedList?_cons_eq]
    split
    · next closes =>
      have here : Closes (StringState.nextInLine quotes) quotes depth state (c :: rest) [] :=
        (closes_cons_iff opened state c rest []).mpr
          (Or.inl ⟨rfl, closes.1, closes.2.1, by omega⟩)
      constructor
      · rintro ⟨⟩
        exact ⟨here, fun other _ => Nat.zero_le _⟩
      · rintro ⟨_, least⟩
        rw [List.eq_nil_of_length_eq_zero (Nat.le_zero.mp (least [] here))]
    · next goesOn =>
      -- What closes the text closes the rest, one character later.
      have later (front : List Char) :
          Closes (StringState.nextInLine quotes) quotes depth state (c :: rest) front ↔
            ∃ inner, front = c :: inner ∧ Closes (StringState.nextInLine quotes) quotes
              (depthBehind quotes depth state c) (state.nextInLine quotes c) rest inner := by
        rw [closes_cons_iff opened, or_iff_right]
        exact fun closes => goesOn ⟨closes.2.1, closes.2.2.1, by omega⟩
      have deep : 0 < depthBehind quotes depth state c := by
        rw [depthBehind]
        split
        · omega
        · split
          · next closes =>
            have : ¬ depth ≤ 1 := fun last => goesOn ⟨closes.1, closes.2, last⟩
            omega
          · exact opened
      rw [Option.map_eq_some_iff]
      constructor
      · rintro ⟨inner, found, rfl⟩
        obtain ⟨closes, least⟩ := (ih deep _ _).mp found
        refine ⟨(later _).mpr ⟨inner, rfl, closes⟩, fun other also => ?_⟩
        obtain ⟨part, rfl, inside⟩ := (later other).mp also
        exact Nat.succ_le_succ (least part inside)
      · rintro ⟨closes, least⟩
        obtain ⟨inner, rfl, inside⟩ := (later raw).mp closes
        refine ⟨inner, (ih deep _ _).mpr ⟨inside, fun other also => ?_⟩, rfl⟩
        exact Nat.le_of_succ_le_succ (least (c :: other) ((later _).mpr ⟨other, rfl, also⟩))

/-! ## Line feeds inside of literals -/

/-- The state of a plain reading behind the text. -/
def plainState (quotes text : List Char) : StringState :=
  text.foldl (StringState.next quotes) .outside

/-- The state of the search behind the text. -/
def searchState (quotes text : List Char) : StringState :=
  text.foldl (StringState.nextInLine quotes) .outside

/-- A plain reading of the text closes the list behind `front`. -/
abbrev ClosesPlainly (quotes text front : List Char) : Prop :=
  Closes (StringState.next quotes) quotes 1 .outside text front

/-- The search through the text closes the list behind `front`. -/
abbrev ClosesInSearch (quotes text front : List Char) : Prop :=
  Closes (StringState.nextInLine quotes) quotes 1 .outside text front

/-- No line feed of the text changes the state of a plain reading. -/
def KeepsStates (quotes text : List Char) : Prop :=
  ∀ front, front ++ ['\n'] <+: text →
    (plainState quotes front).next quotes '\n' = plainState quotes front

/-- No line feed in front of the place where a plain reading closes the list changes its state. -/
def KeepsStatesInList (quotes text : List Char) : Prop :=
  ∀ front, front ++ ['\n'] <+: text →
    (∀ closed, closed <+: front → ¬ ClosesPlainly quotes text closed) →
      (plainState quotes front).next quotes '\n' = plainState quotes front

section Feeds

variable {quotes text front raw : List Char}

/-- The beginning of a text keeps states if the text does. -/
theorem KeepsStates.mono (keeps : KeepsStates quotes text) (starts : front <+: text) :
    KeepsStates quotes front := fun before feed => keeps before (feed.trans starts)

/-- The bare characters of a text that goes on. -/
theorem bareText_append (next : StringState → Char → StringState) (state : StringState)
    (front rest : List Char) :
    bareText next quotes state (front ++ rest) =
      bareText next quotes state front ++ bareText next quotes (front.foldl next state) rest := by
  induction front generalizing state with
  | nil => rfl
  | cons c front ih => rw [List.cons_append, bareText, bareText, ih, List.append_assoc,
      List.foldl_cons]

/-- Where no line feed changes the state, the search and the plain reading agree. -/
theorem KeepsStates.readings_agree (keeps : KeepsStates quotes front) :
    searchState quotes front = plainState quotes front ∧
    bareText (StringState.nextInLine quotes) quotes .outside front =
      bareText (StringState.next quotes) quotes .outside front := by
  induction front using List.reverseRecOn with
  | nil => exact ⟨rfl, rfl⟩
  | append_singleton front c ih =>
    obtain ⟨state, bare⟩ := ih (keeps.mono (List.prefix_append _ _))
    have next : (plainState quotes front).nextInLine quotes c =
        (plainState quotes front).next quotes c := by
      rw [StringState.nextInLine]
      split
      · next feed =>
        subst feed
        exact (keeps front (List.prefix_refl _)).symm
      · rfl
    constructor
    · rw [searchState, plainState, List.foldl_append, List.foldl_append]
      exact (congrArg (StringState.nextInLine quotes · c) state).trans next
    · rw [bareText_append, bareText_append, bare]
      exact congrArg (_ ++ bareText _ quotes · [c]) state

/-- Where no line feed changes the state, the search and the plain reading close alike. -/
theorem KeepsStates.closes_iff (keeps : KeepsStates quotes front) (text : List Char) :
    ClosesInSearch quotes text front ↔ ClosesPlainly quotes text front := by
  obtain ⟨state, bare⟩ := keeps.readings_agree
  rw [searchState, plainState] at state
  constructor
  · rintro ⟨follows, outside, balanced⟩
    rw [state] at outside
    rw [bare] at balanced
    exact ⟨follows, outside, balanced⟩
  · rintro ⟨follows, outside, balanced⟩
    rw [← state] at outside
    rw [← bare] at balanced
    exact ⟨follows, outside, balanced⟩

/-- A list that is closed is a front of the text. -/
theorem Closes.starts {next : StringState → Char → StringState} {depth : Nat}
    {state : StringState} (closes : Closes next quotes depth state text front) : front <+: text :=
  (List.prefix_append _ _).trans closes.follows

/-- The list that a plain reading finds keeps the states. -/
theorem KeepsStatesInList.of_plain (keeps : KeepsStatesInList quotes text)
    (shortest : IsShortest (ClosesPlainly quotes text) raw) : KeepsStates quotes raw := by
  intro front feed
  refine keeps front (feed.trans shortest.1.starts) fun closed before closes => ?_
  have least := shortest.2 closed closes
  have inside := feed.length_le
  have short := before.length_le
  rw [List.length_append, List.length_singleton] at inside
  omega

/-- The list that the search finds keeps the states. A plain reading that ended before it would
have ended the search there. -/
theorem KeepsStatesInList.of_search (keeps : KeepsStatesInList quotes text)
    (shortest : IsShortest (ClosesInSearch quotes text) raw) : KeepsStates quotes raw := by
  intro front feed
  refine keeps front (feed.trans shortest.1.starts) fun closed before closes => ?_
  obtain ⟨first, plain, less⟩ := exists_isShortest closes
  have least := shortest.2 first (((keeps.of_plain plain).closes_iff text).mpr plain.1)
  have inside := feed.length_le
  have short := before.length_le
  rw [List.length_append, List.length_singleton] at inside
  omega

/-- The search finds what a plain reading finds, where no line feed in the list changes the
state. -/
theorem KeepsStatesInList.isShortest_iff (keeps : KeepsStatesInList quotes text) :
    IsShortest (ClosesInSearch quotes text) raw ↔ IsShortest (ClosesPlainly quotes text) raw := by
  constructor
  · intro shortest
    refine ⟨((keeps.of_search shortest).closes_iff text).mp shortest.1, fun other closes => ?_⟩
    obtain ⟨first, plain, less⟩ := exists_isShortest closes
    exact (shortest.2 first (((keeps.of_plain plain).closes_iff text).mpr plain.1)).trans less
  · intro shortest
    refine ⟨((keeps.of_plain shortest).closes_iff text).mpr shortest.1, fun other closes => ?_⟩
    obtain ⟨first, search, less⟩ := exists_isShortest closes
    exact (shortest.2 first (((keeps.of_search search).closes_iff text).mp search.1)).trans less

/-- The search stands in the states of a plain reading up to its end just when no line feed in the
list changes the state. -/
theorem keepsStatesInList_iff (shortest : IsShortest (ClosesInSearch quotes text) raw) :
    (∀ front, front <+: raw → searchState quotes front = plainState quotes front) ↔
      KeepsStatesInList quotes text := by
  constructor
  · intro agree
    have keeps : KeepsStates quotes raw := by
      intro front feed
      have behind := agree _ feed
      rw [searchState, plainState, List.foldl_append, List.foldl_append] at behind
      exact behind.symm.trans (agree front ((List.prefix_append _ _).trans feed))
    intro front feed opened
    have longer : front.length < raw.length := by
      refine Nat.lt_of_not_le fun short => ?_
      have before : raw <+: front := List.prefix_of_prefix_length_le shortest.1.starts
        ((List.prefix_append _ _).trans feed) short
      exact opened raw before ((keeps.closes_iff text).mp shortest.1)
    refine keeps front (List.prefix_of_prefix_length_le feed shortest.1.starts ?_)
    rw [List.length_append]
    exact longer
  · intro keeps front starts
    exact ((keeps.of_search shortest).mono starts).readings_agree.1

end Feeds

/-! ## Positions of the two readers -/

/-- Behind `front`, a front of a list, the search for its end stands in this state. -/
def SearchStands (quotes front : List Char) (state : StringState) : Prop :=
  ∃ depth, ∀ more, closedList? quotes 1 .outside (front ++ more) =
    (closedList? quotes depth state more).map (front ++ ·)

/-- Behind `front` the cutting into parts stands in this state. -/
def PartsStand (quotes front : List Char) (state : StringState) : Prop :=
  ∃ finished started depth previous, ∀ more, parameterParts quotes (front ++ more) =
    finished ++ (splitParameters quotes depth state previous more).modifyHead (started ++ ·)

/-- The search passes every front of the list that it finds. -/
theorem closedList?_append {quotes : List Char} {depth : Nat} {state : StringState}
    {front inner rest : List Char}
    (found : closedList? quotes depth state (front ++ rest) = some (front ++ inner)) :
    ∃ deeper, ∀ more, closedList? quotes depth state (front ++ more) =
      (closedList? quotes deeper (front.foldl (StringState.nextInLine quotes) state) more).map
        (front ++ ·) := by
  induction front generalizing depth state with
  | nil => exact ⟨depth, fun more => by simp⟩
  | cons c front ih =>
    rw [List.cons_append, closedList?_cons_eq] at found
    split at found
    · exact nomatch found
    · next goesOn =>
      obtain ⟨tail, within, same⟩ := Option.map_eq_some_iff.mp found
      obtain rfl := (List.cons.inj same).2
      obtain ⟨deeper, passes⟩ := ih within
      refine ⟨deeper, fun more => ?_⟩
      rw [List.cons_append, closedList?_cons_eq, if_neg goesOn, passes, Option.map_map]
      rfl

/-- The text is cut at a comma, or the character belongs to the first part. -/
theorem splitParameters_cons (quotes : List Char) (depth : Nat) (state : StringState)
    (previous c : Char) :
    ∃ deeper,
      (c = ',' ∧ ∀ rest, splitParameters quotes depth state previous (c :: rest) =
        [] :: splitParameters quotes deeper (state.next quotes c) c rest) ∨
      ∀ rest, splitParameters quotes depth state previous (c :: rest) =
        growFirst c (splitParameters quotes deeper (state.next quotes c) c rest) := by
  cases state with
  | inside quote => exact ⟨depth, Or.inr fun _ => rfl⟩
  | escaped quote => exact ⟨depth, Or.inr fun _ => rfl⟩
  | outside =>
    by_cases quote : c ∈ quotes
    · exact ⟨depth, Or.inr fun rest => by simp [splitParameters, StringState.next, quote]⟩
    · have stays : StringState.outside.next quotes c = .outside := if_neg quote
      simp only [splitParameters, List.contains_iff_mem, quote, if_false, stays]
      split
      · exact ⟨_, Or.inr fun _ => rfl⟩
      · split
        · exact ⟨_, Or.inr fun _ => rfl⟩
        · split
          · exact ⟨_, Or.inr fun _ => rfl⟩
          · split
            · next comma =>
              exact ⟨_, Or.inl ⟨by simp_all, fun _ => rfl⟩⟩
            · exact ⟨_, Or.inr fun _ => rfl⟩

/-- There is always a first part. -/
theorem splitParameters_ne_nil (quotes : List Char) (depth : Nat) (state : StringState)
    (previous : Char) (text : List Char) :
    splitParameters quotes depth state previous text ≠ [] := by
  cases text with
  | nil => exact List.cons_ne_nil _ _
  | cons c rest =>
    obtain ⟨_, ⟨_, cuts⟩ | grows⟩ := splitParameters_cons quotes depth state previous c
    · rw [cuts]
      exact List.cons_ne_nil _ _
    · rw [grows, growFirst.eq_def]
      split <;> exact List.cons_ne_nil _ _

/-- The parts behind a front of the text depend on the front only by what it has started. -/
theorem splitParameters_append (quotes : List Char) (depth : Nat) (state : StringState)
    (previous : Char) (front : List Char) :
    ∃ finished started deeper last, ∀ more,
      splitParameters quotes depth state previous (front ++ more) =
        finished ++ (splitParameters quotes deeper (front.foldl (StringState.next quotes) state)
          last more).modifyHead (started ++ ·) := by
  induction front generalizing depth state previous with
  | nil => exact ⟨[], [], depth, previous, fun more => (congrFun List.modifyHead_id _).symm⟩
  | cons c front ih =>
    obtain ⟨deeper, ⟨_, cuts⟩ | grows⟩ := splitParameters_cons quotes depth state previous c
    · obtain ⟨finished, started, inner, last, parts⟩ := ih deeper (state.next quotes c) c
      refine ⟨[] :: finished, started, inner, last, fun more => ?_⟩
      rw [List.cons_append, cuts, parts]
      rfl
    · obtain ⟨finished, started, inner, last, parts⟩ := ih deeper (state.next quotes c) c
      cases finished with
      | nil =>
        refine ⟨[], c :: started, inner, last, fun more => ?_⟩
        rw [List.cons_append, grows, parts, List.foldl_cons]
        obtain ⟨part, others, same⟩ := List.exists_cons_of_ne_nil (splitParameters_ne_nil quotes
          inner (front.foldl (StringState.next quotes) (state.next quotes c)) last more)
        rw [same]
        rfl
      | cons part finished =>
        refine ⟨(c :: part) :: finished, started, inner, last, fun more => ?_⟩
        rw [List.cons_append, grows, parts]
        rfl

/-! ## The text of a parameter list -/

/-- Behind a name a list is opened on its line, in front of any brace and semicolon, and `tail`
follows on the line. -/
def OpensList (rest tail : List Char) : Prop :=
  ∃ gap, rest = gap ++ '(' :: tail ∧ ∀ c ∈ gap, c ≠ '(' ∧ c ≠ '\x7b' ∧ c ≠ ';'

/-- The list is opened at the first parenthesis. -/
theorem opensList_iff (rest tail : List Char) :
    OpensList rest tail ↔
      rest = rest.takeWhile (· != '(') ++ '(' :: tail ∧
        ∀ c ∈ rest.takeWhile (· != '('), c ≠ '\x7b' ∧ c ≠ ';' := by
  constructor
  · rintro ⟨gap, rfl, clear⟩
    have front : (gap ++ '(' :: tail).takeWhile (· != '(') = gap := by
      rw [List.takeWhile_append_of_pos fun c inside => bne_iff_ne.mpr (clear c inside).1]
      simp
    rw [front]
    exact ⟨rfl, fun c inside => (clear c inside).2⟩
  · rintro ⟨cut, clear⟩
    refine ⟨_, cut, fun c inside => ⟨?_, clear c inside⟩⟩
    simpa using List.mem_takeWhile_imp inside

/-- The search runs through the lines from where the list is opened. -/
theorem parameterText?_eq_some_iff (quotes rest : List Char) (below : List Line)
    (raw : List Char) :
    parameterText? quotes rest below = some raw ↔
      ∃ tail, OpensList rest tail ∧
        closedList? quotes 1 .outside (joinLines (tail :: below)) = some raw := by
  simp only [opensList_iff]
  have whole := List.takeWhile_append_dropWhile (p := (· != '(')) (l := rest)
  have first (c : Char) : (rest.dropWhile (· != '(')).head? = some c → c = '(' := by
    intro head
    have stops := List.head?_dropWhile_not (· != '(') rest
    rw [head] at stops
    simpa using stops
  rw [parameterText?]
  generalize rest.takeWhile (· != '(') = front at whole ⊢
  generalize rest.dropWhile (· != '(') = back at whole first
  subst whole
  cases back with
  | nil => simp
  | cons c tail =>
    obtain rfl := first c rfl
    have opening : ¬ front.length = (front ++ '(' :: tail).length := by simp
    have behind : (front ++ '(' :: tail).drop (front.length + 1) = tail := by
      rw [← List.drop_drop, List.drop_left, List.drop_one, List.tail_cons]
    rw [behind]
    simp only [opening, decide_false, Bool.false_or]
    split
    · next stopped =>
      refine iff_of_false nofun ?_
      rintro ⟨_, ⟨_, clear⟩, _⟩
      obtain ⟨c, inside, stops⟩ := List.any_eq_true.mp stopped
      simp [clear c inside] at stops
    · next clear =>
      constructor
      · intro found
        exact ⟨tail, ⟨rfl, by simpa using clear⟩, found⟩
      · rintro ⟨other, ⟨same, _⟩, found⟩
        obtain rfl := (List.cons.inj (List.append_cancel_left same)).2
        exact found

/-- Where the list is opened its text is what the search finds from there. -/
theorem OpensList.parameterText?_eq_some_iff {rest tail : List Char} (opens : OpensList rest tail)
    (quotes : List Char) (below : List Line) (raw : List Char) :
    parameterText? quotes rest below = some raw ↔
      IsShortest (ClosesInSearch quotes (joinLines (tail :: below))) raw := by
  rw [Outline.parameterText?_eq_some_iff, ← closedList?_eq_some_iff Nat.one_pos]
  constructor
  · rintro ⟨other, alsoOpens, found⟩
    have same := ((opensList_iff rest other).mp alsoOpens).1.symm.trans
      ((opensList_iff rest tail).mp opens).1
    obtain rfl := (List.cons.inj (List.append_cancel_left same)).2
    exact found
  · exact fun found => ⟨tail, opens, found⟩

/-- For every set of quotes, every text behind a name and all lines below it: a text is found just
where a list is opened, and it is the shortest text behind which a bare parenthesis closes the list
in a search that does not read line feeds. At each place of the text the search stands in its own
state, and the cutting into parts in the state of a plain reading. If no line feed in the list
changes the state of a literal, then the text is the shortest that a plain reading of the joined
lines closes. The two states are the same at each place of the text just in this case. -/
theorem parameterText?_eq_plain_reading (quotes rest : List Char) (below : List Line) :
    (∀ raw, parameterText? quotes rest below = some raw ↔
      ∃ tail, OpensList rest tail ∧
        IsShortest (ClosesInSearch quotes (joinLines (tail :: below))) raw) ∧
    (∀ raw, parameterText? quotes rest below = some raw → ∀ front, front <+: raw →
      SearchStands quotes front (searchState quotes front) ∧
      PartsStand quotes front (plainState quotes front)) ∧
    ∀ tail, OpensList rest tail →
      (KeepsStatesInList quotes (joinLines (tail :: below)) →
        ∀ raw, parameterText? quotes rest below = some raw ↔
          IsShortest (ClosesPlainly quotes (joinLines (tail :: below))) raw) ∧
      ∀ raw, parameterText? quotes rest below = some raw →
        ((∀ front, front <+: raw → searchState quotes front = plainState quotes front) ↔
          KeepsStatesInList quotes (joinLines (tail :: below))) := by
  refine ⟨fun raw => ?_, fun raw found front starts => ⟨?_, ?_⟩,
    fun tail opens => ⟨fun keeps raw => ?_, fun raw found => ?_⟩⟩
  · simp only [parameterText?_eq_some_iff, closedList?_eq_some_iff Nat.one_pos]
  · obtain ⟨tail, _, closed⟩ := (parameterText?_eq_some_iff quotes rest below raw).mp found
    obtain ⟨behind, joined⟩ := ((closedList?_eq_some_iff Nat.one_pos _ _ _).mp closed).1.starts
    obtain ⟨inner, rfl⟩ := starts
    rw [← joined, List.append_assoc] at closed
    exact closedList?_append closed
  · exact splitParameters_append quotes 0 .outside (Char.ofNat 0) front
  · rw [opens.parameterText?_eq_some_iff, keeps.isShortest_iff]
  · exact keepsStatesInList_iff ((opens.parameterText?_eq_some_iff quotes below raw).mp found)

/-- A list up to the end of its line: in a string that is not closed stand an escaped quote and a
parenthesis. -/
def openString : List Char := "a = \"x\\\")".toList

/-- The string and the list go on in the next line. -/
def restOfString : Line := "y)\", b) \x7b".toList

/-- The line feed stands in the string and leaves it open. So the text is that of the plain reading,
and the two states are the same throughout. -/
theorem parameterText?_openString :
    KeepsStatesInList ['"'] (joinLines [openString, restOfString]) ∧
    parameterText? ['"'] ('(' :: openString) [restOfString] =
      some (openString ++ "\ny)\", b".toList) ∧
    IsShortest (ClosesPlainly ['"'] (joinLines [openString, restOfString]))
      (openString ++ "\ny)\", b".toList) := by
  obtain ⟨_, _, readings⟩ :=
    parameterText?_eq_plain_reading ['"'] ('(' :: openString) [restOfString]
  obtain ⟨plain, states⟩ := readings openString ⟨[], rfl, nofun⟩
  have found : parameterText? ['"'] ('(' :: openString) [restOfString] =
      some (openString ++ "\ny)\", b".toList) := by decide +kernel
  have agree : ∀ front ∈ (openString ++ "\ny)\", b".toList).inits,
      searchState ['"'] front = plainState ['"'] front := by decide +kernel
  have keeps : KeepsStatesInList ['"'] (joinLines [openString, restOfString]) :=
    (states _ found).mp fun front starts => agree front ((List.mem_inits _ _).mpr starts)
  exact ⟨keeps, found, (plain keeps _).mp found⟩

/-- A list up to the end of its line, which is a backslash in a string. -/
def continuedString : List Char := "a = \"x\\".toList

/-- The next line begins with the quote that closes the string. -/
def restOfContinued : Line := "\", b) \x7b\x7d".toList

/-- No text is found, since the backslash escapes the quote. In a plain reading it escapes the line
feed, and the list has two parameters. -/
theorem parameterText?_continuedString :
    parameterText? ['"'] ('(' :: continuedString) [restOfContinued] = none ∧
    OpensList ('(' :: continuedString) continuedString ∧
    IsShortest (ClosesPlainly ['"'] (joinLines [continuedString, restOfContinued]))
      (continuedString ++ "\n\", b".toList) ∧
    parameterNames .nameFirst ['"'] (continuedString ++ "\n\", b".toList) =
      ["a".toList, "b".toList] := by
  refine ⟨by decide +kernel, ⟨[], rfl, nofun⟩, ⟨⟨by decide +kernel, by decide +kernel,
    by decide +kernel⟩, fun other closes => ?_⟩, by decide +kernel⟩
  -- A shorter list would be closed by a parenthesis inside this one, which has none.
  refine Nat.le_of_not_lt fun less => ?_
  have inside : other ++ [')'] <+: continuedString ++ "\n\", b".toList := by
    refine List.prefix_of_prefix_length_le closes.follows
      (show _ <+: joinLines [continuedString, restOfContinued] from ?_) ?_
    · decide +kernel
    · rw [List.length_append]
      exact less
  have parenthesis : ')' ∈ continuedString ++ "\n\", b".toList :=
    inside.subset (List.mem_append_right _ (List.mem_singleton_self _))
  exact absurd parenthesis (by decide +kernel)

end SourceOutline.Outline
